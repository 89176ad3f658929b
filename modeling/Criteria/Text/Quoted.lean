import Criteria.Text.Hexadecimal
import Criteria.Text.Printable

namespace Criteria.Text

/-! ## Text in quotes for messages

Whatever the text holds, its quoted form is one line of visible characters. -/

/-- A character inside quotes. What cannot be shown is written as its code. -/
def quotedChar (c : Char) : List Char :=
  if c = '\x00' then ['\\', '0']
  else if c = '\t' then ['\\', 't']
  else if c = '\r' then ['\\', 'r']
  else if c = '\n' then ['\\', 'n']
  else if c = '"' ∨ c = '\\' then ['\\', c]
  else if isPrintable c then [c]
  else '\\' :: 'u' :: '\x7b' :: (Hexadecimal.ofNat c.toNat).toList ++ ['\x7d']

def quoted (text : String) : String :=
  String.ofList ('"' :: text.toList.flatMap quotedChar ++ ['"'])

end Criteria.Text
