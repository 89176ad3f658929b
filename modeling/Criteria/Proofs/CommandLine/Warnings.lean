import Criteria.CommandLine.Run
import Criteria.Proofs.Remarks
import Criteria.Proofs.Settled.Query
import Criteria.Proofs.Text.Lines
import Mathlib

/-!
# The warnings of a run

With a silent log, the error stream of a run that gives a query holds the warnings
about its diagnostics and nothing else. A warning is one line, unless the name of the
field that it is about has line feeds: names stand in messages as they are, while
texts stand there in quotes. The name of a logical operator never has one.
-/

namespace Criteria

open Text (OneLine)

/-! ## Messages of one line -/

theorem ClauseKey.oneLine_of_logical {key : String} {operator : LogicalOperator}
    (isLogical : ofKey key = .logical operator) : OneLine key := by
  have spellings : ∀ spelling ∈ reservedKeys, OneLine spelling := by decide
  by_cases reserved : Text.lowercase key ∈ reservedKeys
  · exact Text.oneLine_of_oneLine_lowercase (spellings _ reserved)
  · rw [ofKey_of_not_reserved reserved] at isLogical
    cases isLogical

namespace Diagnostic

/-- The name of the field that a diagnostic is about, where it is about the text of a
field. -/
def field? : Diagnostic → Option String
  | unparsableNumber field _ _ => some field
  | unparsableDate field _ _ => some field
  | _ => none

/-- Diagnostics as queries report them: a dropped key spells an operator, and the type
that cannot read a text is one of numbers or dates. -/
def Reportable : Diagnostic → Prop
  | droppedLogicalKey key _ => ∃ operator, ClauseKey.ofKey key = .logical operator
  | unparsableNumber _ type _ => type = .integer ∨ type = .float
  | unparsableDate _ type _ => type = .date ∨ type = .datetime
  | _ => True

theorem oneLine_name (kind : Kind) : OneLine kind.name := by
  cases kind <;> decide

theorem oneLine_around {front name back : String} (frontLine : OneLine front)
    (nameLine : OneLine name) (backLine : OneLine back) : OneLine (front ++ name ++ back) := by
  simp [frontLine, nameLine, backLine]

/-- Only the name of the field can break the line, since the text is quoted. -/
theorem oneLine_unparsable_iff {field text : String} {type : FieldType}
    (typeLine : OneLine type.text) : OneLine (unparsable field type text) ↔ OneLine field := by
  have quotedLine := Text.oneLine_quoted text
  have front : OneLine " field `" := by simp [OneLine]
  have middle : OneLine "` has unparsable value " := by simp [OneLine]
  simp [unparsable, toString, typeLine, quotedLine, front, middle]

/-- A message about the shape of the criteria is one line. -/
theorem oneLine_message_of_shape {diagnostic : Diagnostic} (reportable : diagnostic.Reportable)
    (noField : diagnostic.field? = none) : OneLine diagnostic.message := by
  cases diagnostic with
  | nonDocumentWhere found =>
      refine oneLine_around ?_ (oneLine_name found) ?_ <;> simp [OneLine, toString]
  | nonDocumentSort found =>
      refine oneLine_around ?_ (oneLine_name found) ?_ <;> simp [OneLine, toString]
  | droppedLogicalKey key found =>
      obtain ⟨operator, isLogical⟩ := reportable
      have keyLine := ClauseKey.oneLine_of_logical isLogical
      refine oneLine_around (oneLine_around ?_ keyLine ?_) (oneLine_name found) ?_ <;>
        simp [OneLine, toString]
  | nonDocumentClause found =>
      refine oneLine_around ?_ (oneLine_name found) ?_ <;> simp [OneLine, toString]
  | nonDocumentLikeGroup found =>
      refine oneLine_around ?_ (oneLine_name found) ?_ <;> simp [OneLine, toString]
  | unparsableNumber field type text => cases noField
  | unparsableDate field type text => cases noField

/-- Of all that a message holds only the name of a field can have line feeds. -/
theorem oneLine_message_iff {diagnostic : Diagnostic} (reportable : diagnostic.Reportable) :
    OneLine diagnostic.message ↔ ∀ field, diagnostic.field? = some field → OneLine field := by
  cases diagnostic with
  | unparsableNumber field type text =>
      have typeLine : OneLine type.text := by
        rcases reportable with rfl | rfl <;> decide
      have sentence : OneLine (unparsableNumber field type text).message ↔ OneLine field :=
        oneLine_unparsable_iff typeLine
      simp [sentence, field?]
  | unparsableDate field type text =>
      have typeLine : OneLine type.text := by
        rcases reportable with rfl | rfl <;> decide
      have kept : OneLine "; kept as a string" := by simp [OneLine]
      have sentence : OneLine (unparsableDate field type text).message ↔ OneLine field := by
        have split : (unparsableDate field type text).message =
            unparsable field type text ++ "; kept as a string" := rfl
        simp [split, oneLine_unparsable_iff typeLine, kept]
      simp [sentence, field?]
  | _ => exact iff_of_true (oneLine_message_of_shape reportable rfl) (by simp [field?])

end Diagnostic

/-! ## What a query reports -/

namespace Remarks

theorem reportable_groupShapes (value : Value) :
    ∀ diagnostic ∈ groupShapes value, diagnostic.Reportable := by
  cases value <;> simp [groupShapes, Diagnostic.Reportable]

mutual

/-- What is dropped from a clause document is named by a spelling of an operator. -/
theorem reportable_shapes : ∀ fields : List (String × Value),
    ∀ diagnostic ∈ shapes fields, diagnostic.Reportable
  | [], _, member => absurd member List.not_mem_nil
  | (key, value) :: rest, diagnostic, member => by
      have later := reportable_shapes rest
      rcases List.mem_append.1 member with here | behind
      · cases kind : ClauseKey.ofKey key with
        | logical operator =>
            rw [kind] at here
            exact reportable_logicalShapes kind value diagnostic here
        | likeGroup =>
            rw [kind] at here
            exact reportable_groupShapes value diagnostic here
        | field =>
            rw [kind] at here
            exact absurd here List.not_mem_nil
      · exact later diagnostic behind

theorem reportable_logicalShapes {key : String} {operator : LogicalOperator}
    (isLogical : ClauseKey.ofKey key = .logical operator) : ∀ value : Value,
    ∀ diagnostic ∈ logicalShapes key value, diagnostic.Reportable
  | .array items => reportable_elementsShapes items
  | .string _ | .document _ | .double _ | .binary _ _ | .undefined | .objectId _
  | .boolean _ | .dateTime _ | .null | .regex _ | .dbPointer _ _ | .code _ | .symbol _
  | .codeWithScope _ _ | .int32 _ | .timestamp _ _ | .int64 _ | .decimal128 _
  | .maxKey | .minKey => by
      intro diagnostic member
      rw [List.mem_singleton.1 member]
      exact ⟨operator, isLogical⟩

theorem reportable_elementsShapes : ∀ items : List Value,
    ∀ diagnostic ∈ elementsShapes items, diagnostic.Reportable
  | [], _, member => absurd member List.not_mem_nil
  | item :: rest, diagnostic, member => by
      have here := reportable_elementShapes item diagnostic
      have later := reportable_elementsShapes rest diagnostic
      exact (List.mem_append.1 member).elim here later

theorem reportable_elementShapes : ∀ item : Value,
    ∀ diagnostic ∈ elementShapes item, diagnostic.Reportable
  | .document fields => reportable_shapes fields
  | .string _ | .array _ | .double _ | .binary _ _ | .undefined | .objectId _
  | .boolean _ | .dateTime _ | .null | .regex _ | .dbPointer _ _ | .code _ | .symbol _
  | .codeWithScope _ _ | .int32 _ | .timestamp _ _ | .int64 _ | .decimal128 _
  | .maxKey | .minKey => by simp [elementShapes, Diagnostic.Reportable]

end

theorem reportable_ofText (context : Context) (name text : String) :
    ∀ diagnostic ∈ ofText context name text, diagnostic.Reportable := by
  intro diagnostic member
  unfold ofText at member
  split at member
  · exact absurd member List.not_mem_nil
  · split at member <;> try split at member
    all_goals simp_all [Diagnostic.Reportable]

theorem reportable_ofEntry (context : Context) (key : String) (value : Value) :
    ∀ diagnostic ∈ ofEntry context key value, diagnostic.Reportable := by
  intro diagnostic member
  unfold ofEntry at member
  split at member
  · cases value with
    | document fields =>
        rcases List.mem_append.1 member with shape | text
        · exact reportable_shapes fields diagnostic shape
        · obtain ⟨read, -, reported⟩ := List.mem_flatMap.1 text
          exact reportable_ofText context read.1 read.2 diagnostic reported
    | _ => simp_all [ofWhere, Diagnostic.Reportable]
  · split at member
    · cases value <;> simp_all [ofSort, Diagnostic.Reportable]
    · exact absurd member List.not_mem_nil

end Remarks

theorem reportable_query (context : Context) (criteria : Document) :
    ∀ diagnostic ∈ (query context criteria).diagnostics, diagnostic.Reportable := by
  induction criteria with
  | nil => exact fun _ member => absurd member List.not_mem_nil
  | cons entry rest ih =>
      intro diagnostic member
      rw [query, Reported.diagnostics_bind, Reported.diagnostics_bind,
        Reported.diagnostics_pure, List.append_nil, diagnostics_entryQuery] at member
      rcases List.mem_append.1 member with here | later
      · exact Remarks.reportable_ofEntry context entry.1 entry.2 diagnostic here
      · exact ih diagnostic later

/-! ## The error stream of a run -/

namespace CommandLine

/-- The log that is turned off writes no record. -/
theorem admits_off (record : Record) : (LogFilter.ofText "off").admits record = false := by
  have filter : LogFilter.ofText "off" = ⟨[⟨"", none, none, none⟩]⟩ := rfl
  have noSpan (span : Span) : (LogFilter.ofText "off").within span = [] := by
    rw [filter]
    rfl
  have within : (LogFilter.ofText "off").admitsWithin record = false := by
    unfold LogFilter.admitsWithin LogFilter.opensWithin
    cases record.span with
    | none => rfl
    | some span => simp [noSpan]
  have anywhere : (LogFilter.ofText "off").threshold (Directive.coversRecord record) = none := by
    rw [filter, LogFilter.threshold]
    cases covered : Directive.coversRecord record ⟨"", none, none, none⟩ <;>
      simp [covered, Directive.choose]
  rw [LogFilter.admits, within, anywhere]
  rfl

theorem logged_off (records : List Record) : logged (.ofText "off") records = [] := by
  simp [logged, Record.written?, admits_off]

theorem isWarning_warningMark (text : String) : isWarning (warningMark ++ text) = true := by
  rw [isWarning, String.toList_append, List.isPrefixOf_iff_prefix]
  exact List.prefix_append _ _

/-- Only the first line of a warning carries its mark. -/
theorem lines_warning (diagnostic : Diagnostic) :
    Text.lines (warning diagnostic) =
      (warningMark ++ Text.firstLine diagnostic.message) ::
        Text.furtherLines diagnostic.message := by
  have markLine : OneLine warningMark := by decide
  exact Text.lines_append markLine diagnostic.message

/-- A run that gives a query, with its warnings asked for and the log turned off, has
nothing but these warnings on its error stream. -/
theorem notices_run {surroundings : Surroundings} {arguments : List String}
    {invocation : Invocation} (silent : surroundings.logLevel = "off")
    (asked : Invocation.ofArguments arguments = .ok invocation)
    (shown : invocation.showDiagnostics = true)
    (done : (run surroundings arguments).exitCode = 0) :
    ∃ query, surroundings.query invocation = .ok query ∧
      (run surroundings arguments).notices = query.diagnostics.map (.plain ∘ warning) := by
  have ran : run surroundings arguments = surroundings.invoke [] invocation := by
    simp [run, asked, silent, logged_off]
  rw [ran, Surroundings.invoke] at done ⊢
  cases result : surroundings.query invocation with
  | error failure =>
      rw [result] at done
      cases done
  | ok query =>
      refine ⟨query, rfl, ?_⟩
      simp [shown, silent, logged_off]

theorem query_of_ok {surroundings : Surroundings} {invocation : Invocation}
    {query : Reported Document} (result : surroundings.query invocation = .ok query) :
    ∃ criteria schema, query = Criteria.query ⟨schema, invocation.options⟩ criteria := by
  unfold Surroundings.query at result
  cases criteria : surroundings.criteria invocation.source with
  | error failure =>
      rw [criteria] at result
      cases result
  | ok fields =>
      cases schema : surroundings.schema invocation.schemaPath with
      | error failure =>
          rw [criteria, schema] at result
          cases result
      | ok declared =>
          rw [criteria, schema] at result
          exact ⟨fields, declared, (Except.ok.inj result).symm⟩

/-- Every diagnostic of the query is reported in order, by a line that is a warning and
holds the message up to its first line feed. The message goes on behind a line feed
only if the name of its field does, and what follows is a warning only if it begins
like one; so without line feeds in these names there is one warning a diagnostic. -/
theorem warnings_run {surroundings : Surroundings} {arguments : List String}
    {invocation : Invocation} (silent : surroundings.logLevel = "off")
    (asked : Invocation.ofArguments arguments = .ok invocation)
    (shown : invocation.showDiagnostics = true)
    (done : (run surroundings arguments).exitCode = 0) :
    ∃ query, surroundings.query invocation = .ok query ∧
      (run surroundings arguments).warnings =
        query.diagnostics.flatMap (fun diagnostic =>
          (warningMark ++ Text.firstLine diagnostic.message) ::
            (Text.furtherLines diagnostic.message).filter isWarning) ∧
      (∀ diagnostic ∈ query.diagnostics,
        OneLine diagnostic.message ↔
          ∀ field, diagnostic.field? = some field → OneLine field) ∧
      ((∀ diagnostic ∈ query.diagnostics,
          ∀ field, diagnostic.field? = some field → OneLine field) →
        (run surroundings arguments).warnings = query.diagnostics.map warning) := by
  obtain ⟨query, result, notices⟩ := notices_run silent asked shown done
  have lines : (run surroundings arguments).errorLines =
      query.diagnostics.flatMap fun diagnostic =>
        (warningMark ++ Text.firstLine diagnostic.message) ::
          Text.furtherLines diagnostic.message := by
    rw [Outcome.errorLines, notices, List.flatMap_map]
    exact List.flatMap_congr fun diagnostic _ => lines_warning diagnostic
  have warnings : (run surroundings arguments).warnings =
      query.diagnostics.flatMap fun diagnostic =>
        (warningMark ++ Text.firstLine diagnostic.message) ::
          (Text.furtherLines diagnostic.message).filter isWarning := by
    simp [Outcome.warnings, lines, List.filter_flatMap, isWarning_warningMark]
  have messages : ∀ diagnostic ∈ query.diagnostics, OneLine diagnostic.message ↔
      ∀ field, diagnostic.field? = some field → OneLine field := by
    intro diagnostic member
    obtain ⟨criteria, schema, rfl⟩ := query_of_ok result
    exact Diagnostic.oneLine_message_iff (reportable_query _ _ diagnostic member)
  refine ⟨query, result, warnings, messages, fun fields => ?_⟩
  rw [warnings, ← List.flatMap_singleton' (query.diagnostics.map warning), List.flatMap_map]
  refine List.flatMap_congr fun diagnostic member => ?_
  have oneLine := (messages diagnostic member).2 (fields diagnostic member)
  obtain ⟨first, further⟩ := List.cons.inj
    ((Text.lines_eq diagnostic.message).symm.trans (Text.lines_of_oneLine oneLine))
  rw [first, further]
  rfl

/-- A dropped key, a text with a line feed before what looks like a warning, and a field
with a line feed in its name. -/
theorem warnings_run_of_three_diagnostics :
    let schema := "\x7b\"size\":[\"integer\"],\"a\\nb\":\x7b\"type\":\"float\"\x7d\x7d"
    let criteria :=
      "\x7b\"where\":\x7b\"OR\":5,\"size\":\"x\\nwarning: y\",\"a\\nb\":\"z\"\x7d\x7d"
    let surroundings : Surroundings :=
      ⟨"off", fun path => if path = "schema" then some schema else none⟩
    let arguments := ["-ds", "schema", "--object-id-identity", criteria]
    let invocation : Invocation :=
      { source := .argument criteria
        schemaPath := some "schema"
        options := { objectIdIdentity := true }
        showDiagnostics := true }
    let outcome := run surroundings arguments
    (Invocation.ofArguments arguments = .ok invocation ∧ outcome.exitCode = 0) ∧
      (∃ query, surroundings.query invocation = .ok query ∧
        outcome.warnings = query.diagnostics.flatMap fun diagnostic =>
          (warningMark ++ Text.firstLine diagnostic.message) ::
            (Text.furtherLines diagnostic.message).filter isWarning) ∧
      outcome.warnings =
        ["warning: logical operator `OR` requires an array, found Int32; key dropped",
          "warning: integer field `size` has unparsable value \"x\\nwarning: y\"",
          "warning: float field `a"] := by
  intro schema criteria surroundings arguments invocation outcome
  have asked : Invocation.ofArguments arguments = .ok invocation := by cbv
  have done : outcome.exitCode = 0 := by decide +kernel
  have lines : outcome.warnings =
      ["warning: logical operator `OR` requires an array, found Int32; key dropped",
        "warning: integer field `size` has unparsable value \"x\\nwarning: y\"",
        "warning: float field `a"] := by
    decide +kernel
  obtain ⟨query, result, warnings, -, -⟩ := warnings_run rfl asked rfl done
  exact ⟨⟨asked, done⟩, ⟨query, result, warnings⟩, lines⟩

/-- Warnings need not be one line a diagnostic: a field with a line feed in its name, and
the mark of a warning behind it, is reported by what looks like two of them. -/
theorem warnings_ne_map_of_split_name :
    ¬∀ (surroundings : Surroundings) (arguments : List String) (invocation : Invocation)
        (query : Reported Document), surroundings.logLevel = "off" →
      Invocation.ofArguments arguments = .ok invocation →
      invocation.showDiagnostics = true → (run surroundings arguments).exitCode = 0 →
      surroundings.query invocation = .ok query →
      (run surroundings arguments).warnings = query.diagnostics.map warning := by
  intro onePerDiagnostic
  let criteria := "\x7b\"where\":\x7b\"a\\nwarning: b\":\"x\"\x7d\x7d"
  let schema := "\x7b\"a\\nwarning: b\":\x7b\"type\":\"integer\"\x7d\x7d"
  let surroundings : Surroundings :=
    ⟨"off", fun path => if path = "schema" then some schema else none⟩
  let arguments := ["-d", "-s", "schema", criteria]
  let invocation : Invocation := ⟨.argument criteria, some "schema", {}, true⟩
  have asked : Invocation.ofArguments arguments = .ok invocation := by cbv
  have done : (run surroundings arguments).exitCode = 0 := by decide +kernel
  have two : (run surroundings arguments).warnings.length = 2 := by decide +kernel
  have one : (surroundings.query invocation).toOption.map
      (fun query => query.diagnostics.length) = some 1 := by
    decide +kernel
  obtain ⟨query, result, -⟩ := notices_run rfl asked rfl done
  have lines := onePerDiagnostic _ _ _ query rfl asked rfl done result
  rw [result] at one
  have single : query.diagnostics.length = 1 := Option.some.inj one
  rw [lines, List.length_map, single] at two
  exact absurd two (by decide)

end CommandLine

end Criteria
