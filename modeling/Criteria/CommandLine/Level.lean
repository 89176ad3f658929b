import Criteria.Text.Digit

namespace Criteria.CommandLine

/-! ## Levels of the log -/

/-- How much a record matters. -/
inductive Level
  | error
  | warn
  | info
  | debug
  | trace
deriving DecidableEq, Repr

namespace Level

def all : List Level := [error, warn, info, debug, trace]

def name : Level → String
  | error => "ERROR"
  | warn => "WARN"
  | info => "INFO"
  | debug => "DEBUG"
  | trace => "TRACE"

def rank : Level → Nat
  | error => 1
  | warn => 2
  | info => 3
  | debug => 4
  | trace => 5

/-- The name in the width of the longest one, filled with spaces in front. -/
def padded (level : Level) : String :=
  String.ofList (List.replicate (5 - level.name.length) ' ') ++ level.name

def ofText? (text : String) : Option Level :=
  let name := String.ofList (text.toList.map Char.toUpper)
  let rank := Digit.unsigned? text.toList
  all.find? fun level => level.name = name ∨ rank = some level.rank

end Level

/-! ### Thresholds -/

/-- The level down to which records are written; `none` writes nothing. -/
abbrev Threshold := Option Level

namespace Threshold

def admits (threshold : Threshold) (level : Level) : Bool :=
  match threshold with
  | none => false
  | some least => level.rank ≤ least.rank

/-- The threshold with this name; `OFF` has the rank zero. -/
def ofText? (text : String) : Option Threshold :=
  let name := String.ofList (text.toList.map Char.toUpper)
  if name = "OFF" ∨ Digit.unsigned? text.toList = some 0 then some none
  else (Level.ofText? text).map some

end Threshold

end Criteria.CommandLine
