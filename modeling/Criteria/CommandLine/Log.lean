import Criteria.CommandLine.Directive
import Criteria.Keyed
import Criteria.Text.Hexadecimal
import Criteria.Text.Pieces

namespace Criteria.CommandLine

/-! ## The log

Records are sent at a level and under a target, the name of the part of the
program that sends them. A filter decides which of them are written. -/

/-- A stretch of the program's work in which records are sent. It has no
fields. -/
structure Span where
  name : String
  target : String
  level : Level
deriving DecidableEq, Repr

/-- One message to the log, with the names of its fields. -/
structure Record where
  level : Level
  target : String
  span : Option Span
  fields : List String
  message : String
deriving DecidableEq, Repr

namespace Directive

/-! ### What a directive is about -/

/-- Whether a directive is about targets that begin like this one. -/
def coversTarget (directive : Directive) (target : String) : Bool :=
  directive.target.toList.isPrefixOf target.toList

/-- Whether a directive holds wherever a record is sent: it names no span and
asks for no value. -/
def isGeneral (directive : Directive) : Bool :=
  directive.span.isNone && !directive.field.any FieldTest.asksValue

def coversRecord (record : Record) (directive : Directive) : Bool :=
  directive.isGeneral && directive.coversTarget record.target &&
    directive.field.all fun test => record.fields.contains test.name

/-- Whether a general directive is about a span. The field it names does not
matter here. -/
def coversSpan (span : Span) (directive : Directive) : Bool :=
  directive.isGeneral && directive.coversTarget span.target

/-- Whether a directive is about the records within a span. One with a field is
not, since the span has none. -/
def coversWithin (span : Span) (directive : Directive) : Bool :=
  directive.span == some span.name && directive.field.isNone &&
    directive.coversTarget span.target

/-- Whether a directive is more telling than another: its target is longer, or it
alone has a field, or its field comes later in the order of names. -/
def isMoreTelling (directive other : Directive) : Bool :=
  if directive.target.length ≠ other.target.length then
    other.target.length < directive.target.length
  else
    match directive.field, other.field with
    | some field, some known => known.name < field.name
    | some _, none => true
    | none, _ => false

/-- The more telling of two directives, and the later one of equals. -/
def choose (best : Option Directive) (next : Directive) : Option Directive :=
  match best with
  | none => some next
  | some known => if known.isMoreTelling next then best else some next

/-- The lowest level that a directive may let through. Values are not known
before records are sent, so a directive that asks for one may let all pass. -/
def reach (directive : Directive) : Threshold :=
  if directive.field.any FieldTest.asksValue then some .trace else directive.threshold

end Directive

/-! ### Filters -/

structure LogFilter where
  directives : List Directive

namespace LogFilter

/-- The directives between the commas of a text. Those that cannot be read are
passed over, and when none is left, errors alone are written. -/
def ofText (text : String) : LogFilter :=
  let parts := (Text.pieces ',' text.toList).map String.ofList
  match parts.filterMap Directive.ofText? with
  | [] => ⟨[⟨"", none, none, some .error⟩]⟩
  | directives => ⟨directives⟩

def threshold (filter : LogFilter) (covers : Directive → Bool) : Threshold :=
  ((filter.directives.filter covers).foldl Directive.choose none).bind
    Directive.threshold

/-- The thresholds within a span. Of the directives with one target the last
stands. -/
def within (filter : LogFilter) (span : Span) : List Threshold :=
  let named := filter.directives.filter (Directive.coversWithin span)
  (Keyed.ofList (named.map fun d => (d.target, d.threshold))).map Prod.snd

/-- Whether a span is opened for the records within it: some directive is about
them, and a span of this level may pass at all. -/
def opensWithin (filter : LogFilter) (span : Span) : Bool :=
  !(filter.within span).isEmpty &&
    filter.directives.any fun directive => directive.reach.admits span.level

def shows (filter : LogFilter) (span : Span) : Bool :=
  filter.opensWithin span ||
    (filter.threshold (Directive.coversSpan span)).admits span.level

def admitsWithin (filter : LogFilter) (record : Record) : Bool :=
  match record.span with
  | none => false
  | some span =>
    filter.opensWithin span && (filter.within span).any (·.admits record.level)

def admits (filter : LogFilter) (record : Record) : Bool :=
  filter.admitsWithin record ||
    (filter.threshold (Directive.coversRecord record)).admits record.level

end LogFilter

/-! ### Writing -/

namespace Record

/-- The characters that would steer a terminal are written as their codes. -/
def shownChar (c : Char) : List Char :=
  let code := (Hexadecimal.ofNat c.toNat).toList
  if c = '\x07' ∨ c = '\x08' ∨ c = '\x0c' ∨ c = '\x1b' ∨ c = '\x7f' then
    '\\' :: 'x' :: List.replicate (2 - code.length) '0' ++ code
  else if 0x80 ≤ c.toNat ∧ c.toNat ≤ 0x9f then
    '\\' :: 'u' :: '\x7b' :: code ++ ['\x7d']
  else [c]

def spanText (filter : LogFilter) (record : Record) : String :=
  match record.span with
  | none => ""
  | some span => if filter.shows span then span.name ++ ": " else ""

def text (filter : LogFilter) (record : Record) : String :=
  let shown := String.ofList (record.message.toList.flatMap shownChar)
  s!"{record.level.padded} {record.spanText filter}{record.target}: {shown}"

def written? (filter : LogFilter) (record : Record) : Option String :=
  if filter.admits record then some (record.text filter) else none

end Record

end Criteria.CommandLine
