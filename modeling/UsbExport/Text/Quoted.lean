import UsbExport.Text.Invisible
import UsbExport.Text.Number

/-!
Text in double quotes, as messages show it. A backslash goes before a quote and a backslash, the
usual controls have letters, and a character that would not be seen is given by its number.
-/

namespace UsbExport.Text

def escape (c : Char) : List Char :=
  if c = '"' then ['\\', '"']
  else if c = '\\' then ['\\', '\\']
  else if c = '\t' then ['\\', 't']
  else if c = '\n' then ['\\', 'n']
  else if c = '\r' then ['\\', 'r']
  else if c = '\x00' then ['\\', '0']
  else if isInvisible c then
    ['\\', 'u', '\x7b'] ++ (hexadecimal 1 c.toNat).toList ++ ['\x7d']
  else [c]

def quoted (text : String) : String :=
  String.ofList ('"' :: text.toList.flatMap escape ++ ['"'])

end UsbExport.Text
