import FlowPeers.Text.Decimal

/-!
# JSON values

The values that a JSON text stands for, with as much of the text as their readers look at: a number
is kept as its characters, and a string is the text it spells, or nothing if its bytes or escapes
spell none. `print` writes a value without any blanks.
-/

namespace FlowPeers

open Text

/-- A JSON value. -/
inductive Json
  | null
  | bool (b : Bool)
  /-- A number, as it is written. -/
  | number (digits : List Char)
  /-- A string, if it spells a text. -/
  | string (text : Option (List Char))
  | list (items : List Json)
  /-- An object, its members in order. -/
  | object (members : List (Option (List Char) × Json))
  deriving Repr

namespace Json

/-- A string that spells a text. -/
def text (s : String) : Json :=
  .string (some s.toList)

/-- A natural number. -/
def nat (n : Nat) : Json :=
  .number (decimal n)

/-- An object with the given names and values. -/
def record (members : List (String × Json)) : Json :=
  .object (members.map fun member => (some member.1.toList, member.2))

/-- A character as it stands in a string. -/
def escapeChar (c : Char) : List Char :=
  if c == '"' then ['\\', '"']
  else if c == '\\' then ['\\', '\\']
  else if c == '\x08' then ['\\', 'b']
  else if c == '\x0c' then ['\\', 'f']
  else if c == '\n' then ['\\', 'n']
  else if c == '\r' then ['\\', 'r']
  else if c == '\t' then ['\\', 't']
  else if c.toNat < 0x20 then
    ['\\', 'u', '0', '0', lowerHexDigit (c.toNat / 16), lowerHexDigit (c.toNat % 16)]
  else [c]

/-- A text between its quotes. -/
def printText (s : List Char) : List Char :=
  '"' :: s.flatMap escapeChar ++ ['"']

mutual

/-- The written form of a value. -/
def print : Json → List Char
  | .null => ['n', 'u', 'l', 'l']
  | .bool true => ['t', 'r', 'u', 'e']
  | .bool false => ['f', 'a', 'l', 's', 'e']
  | .number digits => digits
  | .string text => printText (text.getD [])
  | .list items => '[' :: printItems items ++ [']']
  | .object members => '\x7b' :: printMembers members ++ ['\x7d']

/-- The written form of the items of a list. -/
def printItems : List Json → List Char
  | [] => []
  | item :: rest => print item ++ printMoreItems rest

/-- The written form of the items after the first one. -/
def printMoreItems : List Json → List Char
  | [] => []
  | item :: rest => ',' :: print item ++ printMoreItems rest

/-- The written form of the members of an object. -/
def printMembers : List (Option (List Char) × Json) → List Char
  | [] => []
  | member :: rest => printMember member ++ printMoreMembers rest

/-- The written form of the members after the first one. -/
def printMoreMembers : List (Option (List Char) × Json) → List Char
  | [] => []
  | member :: rest => ',' :: printMember member ++ printMoreMembers rest

/-- The written form of a member. -/
def printMember : Option (List Char) × Json → List Char
  | (name, value) => printText (name.getD []) ++ ':' :: print value

end

end Json

end FlowPeers
