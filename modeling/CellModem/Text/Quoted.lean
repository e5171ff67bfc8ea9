import CellModem.Text.Hex
import CellModem.Text.Unshown

/-!
# Quoted text

How a message quotes the text it complains about: between double quotes, with the quote, the
backslash and the four named controls behind a backslash, and every other character that cannot be
shown as its code point in braces. An apostrophe stays as it is.
-/

namespace CellModem.Text

def quotedChar (c : Char) : List Char :=
  if c = '"' then ['\\', '"']
  else if c = '\\' then ['\\', '\\']
  else if c = '\n' then ['\\', 'n']
  else if c = '\r' then ['\\', 'r']
  else if c = '\t' then ['\\', 't']
  else if c.toNat = 0 then ['\\', '0']
  else if isUnshown c then ['\\', 'u', '\x7b'] ++ hexDigits c.toNat ++ ['\x7d']
  else [c]

def quoted (text : String) : String :=
  String.ofList ('"' :: text.toList.flatMap quotedChar ++ ['"'])

end CellModem.Text
