import Criteria.CommandLine.Level
import Criteria.Text.Blank

namespace Criteria.CommandLine

/-! ## Directives

A directive is a threshold for some of the records. It is written as a threshold
alone, or as a target, a bracket or both, with the threshold after an equals sign:
`store=info`, `store[save]`, `[save]=debug`, `[{keys}]=debug`. -/

/-- A field that a directive names, and whether it asks for a value of it. -/
structure FieldTest where
  name : String
  asksValue : Bool
deriving DecidableEq, Repr

/-- A threshold for what is sent under targets that begin with a text, in spans
with a name, with a field. -/
structure Directive where
  target : String
  span : Option String
  field : Option FieldTest
  threshold : Threshold
deriving DecidableEq, Repr

namespace Directive

/-! ### Reading -/

/-- The characters that a target can begin with. Every letter or digit beyond
ASCII is one of them. -/
def isTargetStart (c : Char) : Bool :=
  c.isAlphanum || c == '-' || c == ':' || c == '_' || 0x80 ≤ c.toNat

/-- The threshold after an equals sign. An empty one admits everything. -/
def thresholdAfter? (text : List Char) : Option Threshold :=
  if text.isEmpty then some (some .trace) else Threshold.ofText? (String.ofList text)

/-- The threshold behind a bracket, where blanks alone stand for none. -/
def thresholdEnd? (text : List Char) : Option Threshold :=
  match text with
  | '=' :: threshold => thresholdAfter? threshold
  | rest => if rest.all Text.isBlank then some (some .trace) else none

/-- The field between braces, perhaps with a value after an equals sign. -/
def field? (text : List Char) : Option FieldTest :=
  if text.isEmpty then none
  else some ⟨String.ofList (text.takeWhile (· ≠ '=')), text.contains '='⟩

/-- The directive of a target and of what follows its opening bracket: the name
of a span, a field in braces, or both. -/
def ofBracket? (target : String) (text : List Char) : Option Directive :=
  let isEnd (c : Char) : Bool := c == ']' || c == '\x7b'
  let span := String.ofList (text.takeWhile (!isEnd ·))
  match text.dropWhile (!isEnd ·) with
  | ']' :: rest => (thresholdEnd? rest).map (⟨target, some span, none, ·⟩)
  | '\x7b' :: inner => do
    let field ← field? (inner.takeWhile (· ≠ '\x7d'))
    match inner.dropWhile (· ≠ '\x7d') with
    | '\x7d' :: ']' :: rest =>
      let threshold ← thresholdEnd? rest
      pure ⟨target, if span = "" then none else some span, some field, threshold⟩
    | _ => none
  | _ => none

def ofUnpadded? (text : List Char) : Option Directive :=
  let isEnd (c : Char) : Bool := c == '=' || c == '['
  let target := String.ofList (text.takeWhile (!isEnd ·))
  match text.dropWhile (!isEnd ·) with
  | '=' :: threshold => (thresholdAfter? threshold).map (⟨target, none, none, ·⟩)
  | '[' :: inner => ofBracket? target inner
  | _ =>
    match Threshold.ofText? target with
    | some threshold => some ⟨"", none, none, threshold⟩
    | none => some ⟨target, none, none, some .trace⟩

/-- The directive that a text spells. With a blank in front the whole text is a
target, which no part of the program has, and cannot be given a threshold. -/
def ofText? (text : String) : Option Directive :=
  let characters := text.toList
  match Text.dropBlank characters with
  | [] => none
  | head :: rest =>
    if !isTargetStart head && head != '[' then none
    else if rest.length + 1 = characters.length then ofUnpadded? characters
    else if characters.contains '=' then none
    else some ⟨text, none, none, some .trace⟩

end Directive

end Criteria.CommandLine
