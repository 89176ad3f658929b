namespace Criteria.Hexadecimal

/-! ## Hexadecimal digits -/

def value? (c : Char) : Option Nat :=
  if '0' ≤ c ∧ c ≤ '9' then some (c.toNat - '0'.toNat)
  else if 'a' ≤ c ∧ c ≤ 'f' then some (c.toNat - 'a'.toNat + 10)
  else if 'A' ≤ c ∧ c ≤ 'F' then some (c.toNat - 'A'.toNat + 10)
  else none

def digit (value : Nat) : Char :=
  if value < 10 then Char.ofNat ('0'.toNat + value)
  else Char.ofNat ('a'.toNat + (value - 10))

def quad? (a b c d : Char) : Option Nat := do
  let first ← value? a
  let second ← value? b
  let third ← value? c
  let fourth ← value? d
  pure (((first * 16 + second) * 16 + third) * 16 + fourth)

/-! ## Bytes as pairs of digits -/

/-- The two digits of one byte, high half first. -/
def pair (byte : UInt8) : List Char :=
  [digit (byte.toNat / 16), digit (byte.toNat % 16)]

def encode (bytes : List UInt8) : String :=
  String.ofList (bytes.flatMap pair)

/-- Reads pairs of digits of either case; an odd digit is refused. -/
def decodeChars? : List Char → Option (List UInt8)
  | [] => some []
  | [_] => none
  | high :: low :: rest =>
    match value? high, value? low with
    | some upper, some lower =>
      (decodeChars? rest).map (UInt8.ofNat (16 * upper + lower) :: ·)
    | _, _ => none

def decode? (text : String) : Option (List UInt8) :=
  decodeChars? text.toList

/-- A number in lower-case hexadecimal without leading zeros. -/
def ofNat (n : Nat) : String :=
  String.ofList (Nat.toDigits 16 n)

end Criteria.Hexadecimal
