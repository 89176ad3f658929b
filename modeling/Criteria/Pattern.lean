import Criteria.Clause
import Criteria.Number.Shortest

namespace Criteria.Pattern

/-! ## Patterns for text matches

A pattern is anchored at both ends and ignores case. The text asked for is
matched literally, but for `%` under `like`, which stands for any run of
characters. -/

/-- The characters that a pattern reads as more than themselves. -/
def metacharacters : List Char :=
  "-[]\x7b\x7d()+?*./,\\^$|#".toList

/-- A character as it stands for itself in a pattern. -/
def escapeChar (c : Char) : List Char :=
  if c ∈ metacharacters then ['\\', c] else [c]

def escape (text : List Char) : List Char :=
  text.flatMap escapeChar

def escapeText (text : String) : String :=
  String.ofList (escape text.toList)

def anyRun : List Char := ['.', '*']

/-- Replaces every `%` of a pattern by any run of characters. -/
def wildcards (pattern : List Char) : List Char :=
  pattern.flatMap fun c => if c = '%' then anyRun else [c]

def body (kind : TextMatch) (text : List Char) : List Char :=
  match kind with
  | .contains => anyRun ++ escape text ++ anyRun
  | .like => wildcards (escape text)
  | .startsWith => escape text ++ anyRun
  | .endsWith => anyRun ++ escape text

def regex (kind : TextMatch) (text : String) : Regex :=
  ⟨String.ofList ('^' :: body kind text.toList ++ ['$']), "i"⟩

/-- The text of an operand; numbers and booleans are matched as they are
shown. -/
def operandText? : Value → Option String
  | .string s => some s
  | .int32 n => some (Int.repr n.toInt)
  | .int64 n => some (Int.repr n.toInt)
  | .double d => some d.plainText
  | .boolean b => some (if b then "true" else "false")
  | _ => none

end Criteria.Pattern
