import Criteria.CommandLine.Log
import Criteria.CommandLine.Usage
import Criteria.ExtendedJson.Printer
import Criteria.Json.Printer
import Criteria.Json.Reader
import Criteria.Schema.Text
import Criteria.Query

namespace Criteria.CommandLine

/-! ## One run of the program

A run is a function of its arguments and of what it finds around it: the files and
the filter of the log. -/

/-- What a run finds around it. -/
structure Surroundings where
  logLevel : String
  file? : String → Option String

/-- Why a run that was asked for a query has none. -/
inductive Failure
  | unreadableFile (path : String)
  | malformedJson
  | criteria (error : CriteriaError)
  | malformedSchema
deriving DecidableEq, Repr

def Failure.message : Failure → String
  | unreadableFile path => s!"cannot read the file {path}"
  | malformedJson => "the criteria are not JSON"
  | criteria error => error.message
  | malformedSchema => Schema.rejection

inductive Notice
  | logged (text : String)
  | plain (text : String)
deriving DecidableEq, Repr

def Notice.text : Notice → String
  | logged text => text
  | plain text => text

inductive Ending
  | done
  | failed (failure : Failure)
  | misused
deriving DecidableEq, Repr

/-- What a run leaves behind: its output, its notices in order and its ending. -/
structure Outcome where
  output : String
  notices : List Notice
  ending : Ending
deriving DecidableEq, Repr

namespace Outcome

def exitCode (outcome : Outcome) : Nat :=
  match outcome.ending with
  | .done => 0
  | .failed _ => 1
  | .misused => 2

def failure? (outcome : Outcome) : Option Failure :=
  match outcome.ending with
  | .failed failure => some failure
  | _ => none

/-- The lines of the error stream. A notice fills a line or, where its text has
line feeds, several. -/
def errorLines (outcome : Outcome) : List String :=
  outcome.notices.flatMap fun notice => Text.lines notice.text

end Outcome

/-! ### Warnings -/

def warningMark : String := "warning: "

def warning (diagnostic : Diagnostic) : String :=
  warningMark ++ diagnostic.message

def isWarning (line : String) : Bool :=
  warningMark.toList.isPrefixOf line.toList

def Outcome.warnings (outcome : Outcome) : List String :=
  outcome.errorLines.filter isWarning

/-! ### The log of a run -/

def querySpan : Span :=
  { name := "translate", target := "mongocriteria", level := .info }

/-- The record of the log's own beginning. A text that names no level counts as
`INFO` here. -/
def startRecord (logLevel : String) : Record :=
  let level := (Level.ofText? logLevel).getD .info
  { level := .debug
    target := "mongocriteria::logger"
    span := none
    fields := ["message"]
    message := s!"Logger initialized with level: {level.name}" }

def diagnosticRecord (diagnostic : Diagnostic) : Record :=
  { level := .warn
    target := "mongocriteria::diagnostics"
    span := some querySpan
    fields := ["message"]
    message := diagnostic.message }

def finishRecord (query : Reported Document) : Record :=
  { level := .debug
    target := "mongocriteria"
    span := some querySpan
    fields := ["message", "keys", "diagnostics"]
    message :=
      s!"translated criteria keys={query.value.length} diagnostics={query.diagnostics.length}" }

def queryRecords (query : Reported Document) : List Record :=
  query.diagnostics.map diagnosticRecord ++ [finishRecord query]

def logged (filter : LogFilter) (records : List Record) : List Notice :=
  records.filterMap fun record => (record.written? filter).map .logged

/-! ### The run -/

namespace Surroundings

def read (surroundings : Surroundings) (path : String) : Except Failure String :=
  match surroundings.file? path with
  | some content => .ok content
  | none => .error (.unreadableFile path)

def criteria (surroundings : Surroundings) (source : Source) :
    Except Failure Document := do
  let text ←
    match source with
    | .file path => surroundings.read path
    | .argument text => pure text
  match Json.ofText? text with
  | none => .error .malformedJson
  | some json => (criteriaOfJson json).mapError .criteria

/-- The schema of an invocation; without a path it declares nothing. -/
def schema (surroundings : Surroundings) (path? : Option String) :
    Except Failure Schema := do
  match path? with
  | none => pure Schema.empty
  | some path =>
    let text ← surroundings.read path
    match Schema.ofText? text with
    | none => .error .malformedSchema
    | some schema => pure schema

def query (surroundings : Surroundings) (invocation : Invocation) :
    Except Failure (Reported Document) := do
  let criteria ← surroundings.criteria invocation.source
  let schema ← surroundings.schema invocation.schemaPath
  pure (Criteria.query ⟨schema, invocation.options⟩ criteria)

end Surroundings

def printed (query : Reported Document) : String :=
  (Value.document query.value).toJson.prettyText ++ "\n"

/-- The outcome of an invocation after the notices that came before it. -/
def Surroundings.invoke (surroundings : Surroundings) (earlier : List Notice)
    (invocation : Invocation) : Outcome :=
  match surroundings.query invocation with
  | .error failure =>
    { output := ""
      notices := earlier ++ [.plain s!"Error: CliError({Text.quoted failure.message})"]
      ending := .failed failure }
  | .ok query =>
    let records := queryRecords query
    let warnings :=
      if invocation.showDiagnostics then query.diagnostics.map (.plain ∘ warning)
      else []
    { output := printed query
      notices := earlier ++ logged (.ofText surroundings.logLevel) records ++ warnings
      ending := .done }

def run (surroundings : Surroundings) (arguments : List String) : Outcome :=
  let start := logged (.ofText surroundings.logLevel) [startRecord surroundings.logLevel]
  match Invocation.ofArguments arguments with
  | .ok invocation => surroundings.invoke start invocation
  | .error .help => { output := helpText ++ "\n", notices := start, ending := .done }
  | .error .version => { output := versionText ++ "\n", notices := start, ending := .done }
  | .error (.misuse error) =>
    { output := "", notices := start ++ [.plain error.text], ending := .misused }

end Criteria.CommandLine
