import Criteria.Options

namespace Criteria.CommandLine

/-! ## Arguments

The arguments of a run are read from left to right, and the first one that is out
of place ends the reading. -/

inductive Source
  | file (path : String)
  | argument (text : String)
deriving DecidableEq, Repr

structure Invocation where
  source : Source
  schemaPath : Option String
  options : Options
  showDiagnostics : Bool
deriving DecidableEq, Repr

/-! ### The flags -/

inductive Flag
  | file
  | schema
  | keepUnparsableNumbers
  | objectIdIdentity
  | diagnostics
  | help
  | version
deriving DecidableEq, Repr

namespace Flag

def all : List Flag :=
  [file, schema, keepUnparsableNumbers, objectIdIdentity, diagnostics, help, version]

def longName : Flag → String
  | file => "file"
  | schema => "schema"
  | keepUnparsableNumbers => "keep-unparsable-numbers"
  | objectIdIdentity => "object-id-identity"
  | diagnostics => "diagnostics"
  | help => "help"
  | version => "version"

def letter? : Flag → Option Char
  | file => some 'f'
  | schema => some 's'
  | keepUnparsableNumbers => none
  | objectIdIdentity => none
  | diagnostics => some 'd'
  | help => some 'h'
  | version => some 'V'

def takesPath : Flag → Bool
  | file | schema => true
  | _ => false

def ofName? (name : String) : Option Flag :=
  all.find? fun flag => flag.longName = name

def ofLetter? (letter : Char) : Option Flag :=
  all.find? fun flag => flag.letter? = some letter

end Flag

/-! ### The shapes of an argument -/

inductive Argument
  | separator
  | named (name : String) (value : Option String)
  | letters (letters : List Char)
  | operand (text : String)
deriving DecidableEq, Repr

/-- A dash alone is an operand like any other text. -/
def Argument.ofText (text : String) : Argument :=
  match text.toList with
  | ['-', '-'] => .separator
  | '-' :: '-' :: body =>
    let name := String.ofList (body.takeWhile (· ≠ '='))
    match body.dropWhile (· ≠ '=') with
    | [] => .named name none
    | _ :: value => .named name (some (String.ofList value))
  | '-' :: head :: rest => .letters (head :: rest)
  | _ => .operand text

/-! ### Reading -/

/-- Why arguments ask for nothing that can be done. -/
inductive UsageError
  | unknownFlag (text : String)
  | missingPath (flag : Flag)
  | emptyPath (flag : Flag)
  | unexpectedValue (flag : Flag) (value : String)
  | repeatedFlag (flag : Flag)
  | unexpectedOperand (text : String)
  | missingCriteria
deriving DecidableEq, Repr

/-- Why no query is asked for. -/
inductive Stop
  | help
  | version
  | misuse (error : UsageError)
deriving DecidableEq, Repr

/-- What the arguments read so far have settled. -/
structure Draft where
  criteria : Option String := none
  filePath : Option String := none
  schemaPath : Option String := none
  keepUnparsableNumbers : Bool := false
  objectIdIdentity : Bool := false
  showDiagnostics : Bool := false
deriving DecidableEq, Repr

namespace Draft

/-- A path, which may be given once only. -/
def path (flag : Flag) (earlier : Option String) (text : String) :
    Except Stop (Option String) :=
  if text = "" then .error (.misuse (.emptyPath flag))
  else if earlier.isSome then .error (.misuse (.repeatedFlag flag))
  else .ok (some text)

def setPath (draft : Draft) (flag : Flag) (text : String) : Except Stop Draft :=
  match flag with
  | .file => do
    let settled ← path flag draft.filePath text
    pure { draft with filePath := settled }
  | .schema => do
    let settled ← path flag draft.schemaPath text
    pure { draft with schemaPath := settled }
  | _ => .error (.misuse (.unexpectedValue flag text))

/-- A switch, which may be turned on once only. -/
def on (flag : Flag) (earlier : Bool) : Except Stop Bool :=
  if earlier then .error (.misuse (.repeatedFlag flag)) else .ok true

def turnOn (draft : Draft) (flag : Flag) : Except Stop Draft :=
  match flag with
  | .keepUnparsableNumbers => do
    let settled ← on flag draft.keepUnparsableNumbers
    pure { draft with keepUnparsableNumbers := settled }
  | .objectIdIdentity => do
    let settled ← on flag draft.objectIdIdentity
    pure { draft with objectIdIdentity := settled }
  | .diagnostics => do
    let settled ← on flag draft.showDiagnostics
    pure { draft with showDiagnostics := settled }
  | .help => .error .help
  | .version => .error .version
  | .file | .schema => .error (.misuse (.missingPath flag))

def setCriteria (draft : Draft) (text : String) : Except Stop Draft :=
  match draft.criteria with
  | none => .ok { draft with criteria := some text }
  | some _ => .error (.misuse (.unexpectedOperand text))

/-- What a finished draft asks for. Criteria from a file go before criteria
among the arguments. -/
def invocation (draft : Draft) : Except Stop Invocation :=
  let finished (source : Source) : Invocation :=
    { source
      schemaPath := draft.schemaPath
      options :=
        { numericFallback := if draft.keepUnparsableNumbers then .keepText else .nan
          objectIdIdentity := draft.objectIdIdentity }
      showDiagnostics := draft.showDiagnostics }
  match draft.filePath, draft.criteria with
  | some path, _ => .ok (finished (.file path))
  | none, some text => .ok (finished (.argument text))
  | none, none => .error (.misuse .missingCriteria)

end Draft

/-- How the next argument is to be taken. -/
inductive Expectation
  | anything
  | path (flag : Flag)
  | operand
deriving DecidableEq, Repr

structure Progress where
  draft : Draft := {}
  expects : Expectation := .anything
deriving DecidableEq, Repr

namespace Progress

/-- Takes a flag with the value attached to it. A path that is not attached is
the next argument. -/
def takeFlag (draft : Draft) (flag : Flag) (attached : Option String) :
    Except Stop Progress :=
  match flag.takesPath, attached with
  | true, none => .ok { draft, expects := .path flag }
  | true, some text => do
    let draft ← draft.setPath flag text
    pure { draft }
  | false, none => do
    let draft ← draft.turnOn flag
    pure { draft }
  | false, some value => .error (.misuse (.unexpectedValue flag value))

/-- The path attached to a letter, with or without an equals sign. -/
def attachedPath : List Char → Option String
  | [] => none
  | '=' :: rest => some (String.ofList rest)
  | rest => some (String.ofList rest)

/-- Takes letters that share a dash. -/
def takeLetters (draft : Draft) : List Char → Except Stop Progress
  | [] => .ok { draft }
  | letter :: rest =>
    match Flag.ofLetter? letter with
    | none => .error (.misuse (.unknownFlag (String.ofList ['-', letter])))
    | some flag =>
      if flag.takesPath then takeFlag draft flag (attachedPath rest)
      else do
        let draft ← draft.turnOn flag
        takeLetters draft rest

def step (progress : Progress) (text : String) : Except Stop Progress :=
  let draft := progress.draft
  match progress.expects with
  | .operand => do
    let draft ← draft.setCriteria text
    pure { draft, expects := .operand }
  | .path flag =>
    match Argument.ofText text with
    | .operand path => takeFlag draft flag (some path)
    | _ => .error (.misuse (.missingPath flag))
  | .anything =>
    match Argument.ofText text with
    | .separator => .ok { draft, expects := .operand }
    | .operand text => do
      let draft ← draft.setCriteria text
      pure { draft }
    | .letters letters => takeLetters draft letters
    | .named name value =>
      match Flag.ofName? name with
      | some flag => takeFlag draft flag value
      | none => .error (.misuse (.unknownFlag ("--" ++ name)))

def finish (progress : Progress) : Except Stop Invocation :=
  match progress.expects with
  | .path flag => .error (.misuse (.missingPath flag))
  | _ => progress.draft.invocation

end Progress

def Invocation.ofArguments (arguments : List String) : Except Stop Invocation := do
  let progress ← arguments.foldlM Progress.step {}
  progress.finish

end Criteria.CommandLine
