import FlowPeers.Sorting
import FlowPeers.Text.Utf8
import FlowPeers.Unicode.Mapping

/-!
# Headers

A header is a name in lower case and a value of bytes. No control but the tab may stand in a value;
one that grants access to something is marked as sensitive.
-/

namespace FlowPeers

open Text

/-- Whether a byte may stand in the value of a header. -/
def isHeaderByte (b : UInt8) : Bool :=
  0x20 ≤ b && b != 0x7F || b == 0x09

/-- The value of a header. -/
structure HeaderValue where
  /-- The bytes. -/
  bytes : List UInt8
  /-- Whether it must not be shown. -/
  sensitive : Bool := false
  deriving DecidableEq, Repr

namespace HeaderValue

/-- The value of some bytes, if they may stand in one. -/
def ofBytes? (bytes : List UInt8) : Option HeaderValue :=
  if bytes.all isHeaderByte then some { bytes := bytes } else none

/-- The value of a text, if it may stand in one. -/
def ofText? (text : List Char) : Option HeaderValue :=
  ofBytes? (encode text)

/-- The value of a text that is known to stand in one. -/
def ofString (text : String) : HeaderValue :=
  { bytes := encode text.toList }

/-- The text of a value of ASCII characters. -/
def ascii? (value : HeaderValue) : Option (List Char) :=
  if value.bytes.all fun b => b < 0x7F then
    some (value.bytes.map fun b => Char.ofNat b.toNat)
  else none

/-- The text of a value, its ill-formed bytes replaced. -/
def text (value : HeaderValue) : String :=
  String.ofList (decodeLossy value.bytes)

end HeaderValue

/-- Whether a character may stand in a method or in the name of a header. -/
def isTokenChar (c : Char) : Bool :=
  c.isAlphanum || "!#$%&'*+-.^_\x60|~".toList.contains c

/-- Whether a text is a method or the name of a header. -/
def isToken (text : List Char) : Bool :=
  !text.isEmpty && text.all isTokenChar

/-- A header. -/
structure Header where
  /-- The name in lower case. -/
  name : String
  /-- The value. -/
  value : HeaderValue
  deriving DecidableEq, Repr

namespace Header

/-- The name that a text spells, in lower case. -/
def readName? (text : String) : Option String :=
  if isToken text.toList then some (String.ofList (text.toList.map Unicode.lowerAscii)) else none

/-- The value of the first header of a name. -/
def find? (headers : List Header) (name : String) : Option HeaderValue :=
  (headers.find? (·.name == name)).map (·.value)

/-- The names and the texts of some headers, in order of the names and then the texts. -/
def listing (headers : List Header) : List (String × String) :=
  sortBy (fun a b => a.1 < b.1 || a.1 == b.1 && a.2 ≤ b.2)
    (headers.map fun header => (header.name, header.value.text))

end Header

end FlowPeers
