namespace Criteria

/-! ## Scanners

A scanner takes what it reads off the front of a text and hands back the
remainder, or refuses. -/

/-- A reader of the front of a text. -/
abbrev Scan (α : Type) := StateT (List Char) Option α

namespace Scan

variable {α β : Type}

/-- Accepts a text only when the scanner reads all of it. -/
def run? (scan : Scan α) (text : String) : Option α :=
  match scan text.toList with
  | some (value, []) => some value
  | _ => none

/-- Reads the next character if `accept` holds of it. -/
def next (accept : Char → Bool) : Scan Char
  | [] => none
  | head :: rest => if accept head then some (head, rest) else none

def char (expected : Char) : Scan Unit
  | [] => none
  | head :: rest => if head = expected then some ((), rest) else none

def literal : List Char → Scan Unit
  | [] => fun text => some ((), text)
  | expected :: more => fun text =>
    match text with
    | [] => none
    | head :: rest => if head = expected then literal more rest else none

/-- Reads the longest run of characters for which `accept` holds. -/
def span (accept : Char → Bool) : Scan (List Char) := fun text =>
  some (text.takeWhile accept, text.dropWhile accept)

/-- Reads the longest run accepted, but not the empty one. -/
def span₁ (accept : Char → Bool) : Scan (List Char) := fun text =>
  match text.takeWhile accept with
  | [] => none
  | run => some (run, text.dropWhile accept)

/-- Reads the longest run accepted, stopping after `most` characters and
refusing fewer than `least`. -/
def spanBetween (least most : Nat) (accept : Char → Bool) : Scan (List Char) :=
  fun text =>
    let run := (text.take most).takeWhile accept
    if least ≤ run.length then some (run, text.drop run.length) else none

/-- Tries `first`, and `second` on the same text when `first` refuses. -/
def orElse (first second : Scan α) : Scan α := fun text =>
  match first text with
  | some result => some result
  | none => second text

/-- Reads with `scan` when it accepts, and nothing otherwise. -/
def optional (scan : Scan α) : Scan (Option α) := fun text =>
  match scan text with
  | some (value, rest) => some (some value, rest)
  | none => some (none, text)

end Scan

end Criteria
