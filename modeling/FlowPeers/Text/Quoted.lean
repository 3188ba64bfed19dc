import FlowPeers.Text.Decimal
import FlowPeers.Unicode.Printable

/-!
# Quoted texts

A text between double quotes, as messages show it. Quotes and backslashes are escaped, the
common controls have escapes of their own, and any other character without a visible form is given
by its code point in braces.
-/

namespace FlowPeers.Text

/-- A character as it stands between the quotes. -/
def quoteChar (c : Char) : List Char :=
  if c == '"' then ['\\', '"']
  else if c == '\\' then ['\\', '\\']
  else if c == '\n' then ['\\', 'n']
  else if c == '\r' then ['\\', 'r']
  else if c == '\t' then ['\\', 't']
  else if c == '\x00' then ['\\', '0']
  else if Unicode.isShown c then [c]
  else ['\\', 'u', '\x7b'] ++ hexadecimal c.toNat ++ ['\x7d']

/-- A text between quotes. -/
def quote (s : List Char) : List Char :=
  '"' :: s.flatMap quoteChar ++ ['"']

/-- A string between quotes. -/
def quoted (s : String) : String :=
  String.ofList (quote s.toList)

end FlowPeers.Text
