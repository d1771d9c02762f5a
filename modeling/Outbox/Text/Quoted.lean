import Outbox.Text.Visible
import Outbox.Text.Hex

/-!
# Quoted texts in messages

* `quote s`   `s` between double quotes, made safe to read: `\t \r \n \0 \" \\` by name, characters
              that do not show on their own (`isExtender`, `isUnprintable`) by their code point in
              hexadecimal, all others as they are.
-/

namespace Outbox.Text

def quoteChar (c : Char) : List Char :=
  if c = '\t' then ['\\', 't']
  else if c = '\r' then ['\\', 'r']
  else if c = '\n' then ['\\', 'n']
  else if c = '\x00' then ['\\', '0']
  else if c = '"' then ['\\', '"']
  else if c = '\\' then ['\\', '\\']
  else if isExtender c || isUnprintable c then
    ['\\', 'u', '\x7b'] ++ hexText c.toNat ++ ['\x7d']
  else [c]

def quote (s : String) : String :=
  String.ofList ('"' :: s.toList.flatMap quoteChar ++ ['"'])

end Outbox.Text
