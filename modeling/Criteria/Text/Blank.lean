namespace Criteria.Text

/-! ## White space

The characters with the Unicode property White_Space. -/

/-- Whether a character is white space in any script. -/
def isBlank (c : Char) : Bool :=
  let code := c.toNat
  (9 ≤ code && code ≤ 13) || code == 0x20 || code == 0x85 || code == 0xA0 ||
    code == 0x1680 || (0x2000 ≤ code && code ≤ 0x200A) || code == 0x2028 ||
    code == 0x2029 || code == 0x202F || code == 0x205F || code == 0x3000

def dropBlank (text : List Char) : List Char :=
  text.dropWhile isBlank

end Criteria.Text
