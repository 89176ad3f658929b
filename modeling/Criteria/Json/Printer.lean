import Criteria.Json.Value
import Criteria.Number.Shortest
import Criteria.Text.Hexadecimal

namespace Criteria.Json

/-! ## Writing JSON -/

/-! ### Strings -/

/-- A character inside quotes. Quotes, backslashes and control characters are
escaped; all else stands for itself. -/
def escape (c : Char) : List Char :=
  if c = '"' then ['\\', '"']
  else if c = '\\' then ['\\', '\\']
  else if c = '\x08' then ['\\', 'b']
  else if c = '\x0c' then ['\\', 'f']
  else if c = '\n' then ['\\', 'n']
  else if c = '\r' then ['\\', 'r']
  else if c = '\t' then ['\\', 't']
  else if c.toNat < 0x20 then
    '\\' :: 'u' :: '0' :: '0' :: Hexadecimal.pair (UInt8.ofNat c.toNat)
  else [c]

def quote (s : String) : List Char :=
  '"' :: s.toList.flatMap escape ++ ['"']

/-! ### Numbers -/

/-- A finite double: positional from 1e-5 up to 1e16 and then with a point,
scientific outside; a tie between two shortest decimals goes to the even
digit. -/
def doubleText (d : Double) : List Char :=
  if d.isZero then d.signText ++ ['0', '.', '0']
  else
    let decimal := d.shortest .even
    d.signText ++
      if -5 < decimal.point ∧ decimal.point ≤ 16 then
        decimal.positional ['.', '0']
      else decimal.scientific 'e'

/-- A number as JSON. Doubles without a value have no JSON and become
`null`. -/
def numberText : JsonNumber → List Char
  | .integer n => (Int.repr n).toList
  | .real d => if d.isFinite then doubleText d else "null".toList

/-! ### Compact text -/

mutual

def compact : Json → List Char
  | null => "null".toList
  | bool b => (if b then "true" else "false").toList
  | number n => numberText n
  | string s => quote s
  | array [] => ['[', ']']
  | array (head :: tail) => '[' :: compact head ++ compactItems tail
  | object [] => ['\x7b', '\x7d']
  | object ((name, value) :: tail) =>
    '\x7b' :: quote name ++ ':' :: compact value ++ compactMembers tail

def compactItems : List Json → List Char
  | [] => [']']
  | head :: tail => ',' :: compact head ++ compactItems tail

def compactMembers : List (String × Json) → List Char
  | [] => ['\x7d']
  | (name, value) :: tail =>
    ',' :: quote name ++ ':' :: compact value ++ compactMembers tail

end

/-! ### Indented text -/

/-- A new line at a depth of two blanks a level. -/
def newLine (depth : Nat) : List Char :=
  '\n' :: List.replicate (2 * depth) ' '

mutual

/-- A value with one item or member a line; empty containers stay closed. -/
def indented (depth : Nat) : Json → List Char
  | null => "null".toList
  | bool b => (if b then "true" else "false").toList
  | number n => numberText n
  | string s => quote s
  | array [] => ['[', ']']
  | array (head :: tail) =>
    '[' :: newLine (depth + 1) ++ indented (depth + 1) head ++ indentedItems depth tail
  | object [] => ['\x7b', '\x7d']
  | object ((name, value) :: tail) =>
    '\x7b' :: newLine (depth + 1) ++ quote name ++ ':' :: ' ' ::
      indented (depth + 1) value ++ indentedMembers depth tail

def indentedItems (depth : Nat) : List Json → List Char
  | [] => newLine depth ++ [']']
  | head :: tail =>
    ',' :: newLine (depth + 1) ++ indented (depth + 1) head ++ indentedItems depth tail

def indentedMembers (depth : Nat) : List (String × Json) → List Char
  | [] => newLine depth ++ ['\x7d']
  | (name, value) :: tail =>
    ',' :: newLine (depth + 1) ++ quote name ++ ':' :: ' ' ::
      indented (depth + 1) value ++ indentedMembers depth tail

end

def compactText (json : Json) : String := String.ofList (compact json)

def prettyText (json : Json) : String := String.ofList (indented 0 json)

end Criteria.Json
