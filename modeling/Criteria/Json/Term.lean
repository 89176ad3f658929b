import Criteria.Number.Literal
import Criteria.Text.Hexadecimal

namespace Criteria

/-! ## JSON as it is written

A term keeps the spelling of numbers and strings and every repeated member. It
is what the grammar alone accepts; whether the spellings denote anything is
settled when the term is given a value. -/

inductive JsonPiece
  | plain (c : Char)
  | unit (code : Nat)
deriving DecidableEq, Repr

structure JsonNumeral where
  negative : Bool
  whole : List Char
  fraction : List Char
  power : Option Int
deriving DecidableEq, Repr

/-- A JSON text without its white space. -/
inductive JsonTerm
  | null
  | bool (b : Bool)
  | number (numeral : JsonNumeral)
  | string (pieces : List JsonPiece)
  | array (items : List JsonTerm)
  | object (members : List (List JsonPiece × JsonTerm))

namespace JsonTerm

/-! ### Scalars -/

/-- Skips the four characters that JSON counts as white space. -/
def skipSpace : Scan Unit := fun text =>
  some ((), text.dropWhile fun c => c == ' ' || c == '\n' || c == '\t' || c == '\r')

def escaped? : Char → Option Char
  | '"' => some '"'
  | '\\' => some '\\'
  | '/' => some '/'
  | 'b' => some '\x08'
  | 'f' => some '\x0c'
  | 'n' => some '\n'
  | 'r' => some '\r'
  | 't' => some '\t'
  | _ => none

/-- Reads the pieces of a string up to and with the closing quote. Control
characters must be escaped. -/
def pieces : Scan (List JsonPiece)
  | [] => none
  | '"' :: rest => some ([], rest)
  | '\\' :: 'u' :: a :: b :: c :: d :: rest => do
    let code ← Hexadecimal.quad? a b c d
    let (more, remainder) ← pieces rest
    some (.unit code :: more, remainder)
  | '\\' :: letter :: rest => do
    let c ← escaped? letter
    let (more, remainder) ← pieces rest
    some (.plain c :: more, remainder)
  | c :: rest =>
    if c.toNat < 0x20 ∨ c = '\\' then none
    else do
      let (more, remainder) ← pieces rest
      some (.plain c :: more, remainder)

def quoted : Scan (List JsonPiece) := do
  Scan.char '"'
  pieces

/-- Reads a single zero or digits that start with another one. -/
def wholeDigits : Scan (List Char) := fun text =>
  match text with
  | '0' :: rest => some (['0'], rest)
  | _ => Digit.many text

/-- Reads a number. A point or a power mark that nothing follows is left
standing, and no text goes on with one. -/
def numeral : Scan JsonNumeral := do
  let minus ← Scan.optional (Scan.char '-')
  let whole ← wholeDigits
  let fraction ← Scan.optional do
    Scan.char '.'
    Digit.many
  let power ← Scan.optional Literal.power
  pure ⟨minus.isSome, whole, fraction.getD [], power⟩

def scalar : Scan JsonTerm := fun text =>
  match text with
  | 'n' :: _ => (do Scan.literal "null".toList; pure null : Scan JsonTerm) text
  | 't' :: _ => (do Scan.literal "true".toList; pure (bool true) : Scan JsonTerm) text
  | 'f' :: _ => (do Scan.literal "false".toList; pure (bool false) : Scan JsonTerm) text
  | '"' :: _ => (string <$> quoted) text
  | _ => (number <$> numeral) text

/-! ### Containers -/

/-- Reads items parted by commas up to and with the closing character; `fuel`
bounds their number. -/
def items {α : Type} (close : Char) (item : Scan α) : Nat → Scan (List α)
  | 0 => fun _ => none
  | fuel + 1 => do
    let head ← item
    skipSpace
    Scan.orElse
      (do
        Scan.char ','
        let tail ← items close item fuel
        pure (head :: tail))
      (do
        Scan.char close
        pure [head])

def inside {α : Type} (close : Char) (item : Scan α) : Scan (List α) := do
  skipSpace
  Scan.orElse
    (do
      Scan.char close
      pure [])
    (fun text => items close item (text.length + 1) text)

def member (value : Scan JsonTerm) : Scan (List JsonPiece × JsonTerm) := do
  skipSpace
  let name ← quoted
  skipSpace
  Scan.char ':'
  let term ← value
  pure (name, term)

def container (value : Scan JsonTerm) : Scan JsonTerm := fun text =>
  match text with
  | '[' :: rest => (array <$> inside ']' value) rest
  | '{' :: rest => (object <$> inside '}' (member value)) rest
  | _ => none

/-- Reads a term after white space. Containers may nest `room` deep. -/
def scan : Nat → Scan JsonTerm
  | 0 => do
    skipSpace
    scalar
  | room + 1 => do
    skipSpace
    Scan.orElse scalar (container (scan room))

/-- The term that a whole text spells, white space around it allowed. -/
def ofText? (room : Nat) (text : String) : Option JsonTerm :=
  let whole : Scan JsonTerm := do
    let term ← scan room
    skipSpace
    pure term
  whole.run? text

end JsonTerm

end Criteria
