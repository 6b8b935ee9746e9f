import Handoff.Text.Hex
import Handoff.Text.Quoted.Table

/-!
# Quoted texts

A text between double quotes, as it is shown in a message: quotes and backslashes are escaped, and
characters that would not be seen are written by name or by code point.
-/

namespace Handoff.Text

/-- `c` as it is shown inside a quoted text. -/
def shownChar (c : Char) : List Char :=
  if c = '"' then ['\\', '"']
  else if c = '\\' then ['\\', '\\']
  else if c = '\n' then ['\\', 'n']
  else if c = '\r' then ['\\', 'r']
  else if c = '\t' then ['\\', 't']
  else if c.toNat = 0 then ['\\', '0']
  else if c.toNat < 0x20 || unshownIntervals.contains c then
    ['\\', 'u', '\x7b'] ++ hexDigits c.toNat ++ ['\x7d']
  else [c]

/-- `s` between double quotes, every character shown. -/
def shown (s : String) : String :=
  String.ofList ('"' :: s.toList.flatMap shownChar ++ ['"'])

end Handoff.Text
