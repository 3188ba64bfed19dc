import FlowPeers.Text.Percent
import FlowPeers.Text.Split

/-!
# Form fields

The body of a form is its fields in order, each as name, equals sign and value, with an ampersand
between two fields. In names and values the letters, the digits and `*-._` stand for themselves, a
space becomes a plus sign, and every other byte is percent-encoded, so no value can hold a
separator. `readFields` undoes this: it cuts the body at the ampersands and each field at its first
equals sign.
-/

namespace FlowPeers.Text.Form

/-- The characters that stand for themselves in a field. -/
def isPlain (c : Char) : Bool :=
  c.isAlphanum || c == '*' || c == '-' || c == '.' || c == '_'

/-- A name or value as it stands in the body. -/
def encodePart (s : List Char) : List Char :=
  s.flatMap fun c => if c == ' ' then ['+'] else percentChar (!isPlain ·) c

/-- One field. -/
def encodeField (field : List Char × List Char) : List Char :=
  encodePart field.1 ++ '=' :: encodePart field.2

/-- The body of a form with the given fields. -/
def encodeFields : List (List Char × List Char) → List Char
  | [] => []
  | [field] => encodeField field
  | field :: next :: fields => encodeField field ++ '&' :: encodeFields (next :: fields)

/-- The text that a name or value in a body stands for. -/
def decodePart (s : List Char) : List Char :=
  decodeLossy (percentDecode (s.map fun c => if c == '+' then ' ' else c))

/-- The name and the value of a field of a body; a field without an equals sign has no value. -/
def readField (field : List Char) : List Char × List Char :=
  (decodePart (field.takeWhile (· != '=')), decodePart ((field.dropWhile (· != '=')).drop 1))

/-- The fields of a body, empty ones left out. -/
def readFields (body : List Char) : List (List Char × List Char) :=
  ((splitOn (· == '&') body).filter (!·.isEmpty)).map readField

end FlowPeers.Text.Form
