import FlowPeers.Text.Decimal
import FlowPeers.Text.Utf8
import FlowPeers.Unicode.Mapping

/-!
# Request targets

The target of a request is a path, an authority, or a scheme with an authority and a path. It is
read from a text with its own, stricter rules: no character is encoded on the way, one that is out
of place is an error, and a fragment is dropped. `print` shows the target as it is sent and
reported.
-/

namespace FlowPeers

open Text

/-- Why a text is no target. -/
inductive TargetError
  | badCharacter
  | badAuthority
  | badFormat
  | tooLong
  | schemeTooLong
  | empty
  deriving DecidableEq, Repr

/-- The wording of a cause. -/
def TargetError.message : TargetError → String
  | .badCharacter => "invalid uri character"
  | .badAuthority => "invalid authority"
  | .badFormat => "invalid format"
  | .tooLong => "uri too long"
  | .schemeTooLong => "scheme too long"
  | .empty => "empty string"

/-- The target of a request. -/
structure Target where
  /-- The scheme. -/
  scheme : Option (List Char)
  /-- The authority. -/
  authority : Option (List Char)
  /-- The path as it is written. -/
  path : List Char
  /-- The query, without its question mark. -/
  query : Option (List Char)
  deriving DecidableEq, Repr

namespace Target

/-- Whether a path or a query is there, or must be, since a scheme is. -/
def hasPath (t : Target) : Bool :=
  !t.path.isEmpty || t.query.isSome || t.scheme.isSome

/-- The path that is asked for. -/
def pathText (t : Target) : List Char :=
  if t.hasPath && t.path.isEmpty then ['/'] else t.path

/-- The written form. -/
def print (t : Target) : List Char :=
  (match t.scheme with
    | some scheme => scheme ++ [':', '/', '/']
    | none => [])
  ++ t.authority.getD []
  ++ t.pathText
  ++ match t.query with
    | some query => '?' :: query
    | none => []

/-- The written form as a string. -/
def text (t : Target) : String :=
  String.ofList t.print

/-- Whether a path may hold the character. -/
def isPathChar (c : Char) : Bool :=
  let n := c.toNat
  n == 0x21 || n == 0x22 || 0x24 ≤ n && n ≤ 0x3B || n == 0x3D || 0x40 ≤ n && n ≤ 0x5F
    || 0x61 ≤ n && n ≤ 0x7E

/-- Whether a query may hold the character. -/
def isQueryChar (c : Char) : Bool :=
  let n := c.toNat
  n == 0x21 || 0x24 ≤ n && n ≤ 0x3B || n == 0x3D || 0x3F ≤ n && n ≤ 0x7E

/-- Whether an authority may hold the character, the percent sign apart. -/
def isAuthorityChar (c : Char) : Bool :=
  c.isAlphanum || "!$&'()*+,-.:;=@[]_~".toList.contains c

/-- Whether a scheme may hold the character. -/
def isSchemeChar (c : Char) : Bool :=
  c.isAlphanum || ['+', '-', '.', '~'].contains c

/-- The path and the query of a text. -/
def readPath (text : List Char) : Except TargetError (List Char × Option (List Char)) :=
  let whole := text.takeWhile (· != '#')
  let path := whole.takeWhile (· != '?')
  match whole.dropWhile (· != '?') with
  | [] => if path.all isPathChar then .ok (path, none) else .error .badCharacter
  | _ :: query =>
    if path.all isPathChar && query.all isQueryChar then .ok (path, some query)
    else .error .badCharacter

/-- What has been seen of an authority. -/
structure Scan where
  /-- The number of colons that no user and no brackets account for. -/
  colons : Nat := 0
  /-- Whether a bracket was opened. -/
  opened : Bool := false
  /-- Whether a bracket was closed. -/
  closed : Bool := false
  /-- Whether there is a percent sign that no user and no brackets account for. -/
  percent : Bool := false
  /-- Whether the last character was an at sign. -/
  atSign : Bool := false

/-- Passes a character of an authority. -/
def Scan.step (s : Scan) (c : Char) : Except TargetError Scan :=
  let s := { s with atSign := c == '@' }
  if c == ':' then
    if 8 ≤ s.colons then .error .badAuthority else .ok { s with colons := s.colons + 1 }
  else if c == '[' then
    if s.percent || s.opened then .error .badAuthority else .ok { s with opened := true }
  else if c == ']' then
    if !s.opened || s.closed then .error .badAuthority
    else .ok { s with closed := true, colons := 0, percent := false }
  else if c == '@' then .ok { s with colons := 0, percent := false }
  else if c == '%' then .ok { s with percent := true }
  else if isAuthorityChar c then .ok s
  else .error .badCharacter

/-- Whether a character ends an authority. -/
def endsAuthority (c : Char) : Bool :=
  c == '/' || c == '?' || c == '#'

/-- The authority at the beginning of a text, and what follows it. -/
def readAuthority (text : List Char) : Except TargetError (List Char × List Char) :=
  let authority := text.takeWhile (!endsAuthority ·)
  match authority.foldlM Scan.step {} with
  | .error e => .error e
  | .ok s =>
    if s.opened != s.closed || 1 < s.colons || s.atSign || s.percent then .error .badAuthority
    else .ok (authority, text.dropWhile (!endsAuthority ·))

/-- The schemes of the web, which are read in either case. -/
def webSchemes : List (List Char) := ["http".toList, "https".toList]

/-- The scheme in front of `://`, if there is one, and what follows. -/
def splitScheme (text : List Char) : Except TargetError (Option (List Char) × List Char) :=
  let scheme := text.takeWhile isSchemeChar
  match text.dropWhile isSchemeChar with
  | ':' :: '/' :: '/' :: rest =>
    let lower := scheme.map Unicode.lowerAscii
    if webSchemes.contains lower then .ok (some lower, rest)
    else if 64 < scheme.length then .error .schemeTooLong
    else if 3 < text.length then .ok (some scheme, rest)
    else .ok (none, text)
  | _ => .ok (none, text)

/-- A target of an authority alone. -/
def ofAuthority (authority : List Char) : Target :=
  { scheme := none, authority := some authority, path := [], query := none }

/-- A target of a path and a query alone. -/
def ofPath (path : List Char) (query : Option (List Char)) : Target :=
  { scheme := none, authority := none, path := path, query := query }

/-- Reads a text of one character. -/
def readOne (c : Char) : Except TargetError Target :=
  if c == '/' || c == '*' then .ok (ofPath [c] none)
  else match readAuthority [c] with
    | .error e => .error e
    | .ok (authority, []) => .ok (ofAuthority authority)
    | .ok _ => .error .badCharacter

/-- Reads a text that does not begin with a slash. -/
def readFull (text : List Char) : Except TargetError Target :=
  match splitScheme text with
  | .error e => .error e
  | .ok (scheme, rest) =>
    match readAuthority rest with
    | .error e => .error e
    | .ok (authority, rest) =>
      match scheme with
      | none => if rest.isEmpty then .ok (ofAuthority authority) else .error .badFormat
      | some scheme =>
        if authority.isEmpty then .error .badFormat
        else match readPath rest with
          | .error e => .error e
          | .ok (path, query) => .ok ⟨some scheme, some authority, path, query⟩

/-- Reads a target. -/
def read (text : List Char) : Except TargetError Target :=
  if 65534 < (encode text).length then .error .tooLong
  else match text with
    | [] => .error .empty
    | [c] => readOne c
    | '/' :: _ =>
      match readPath text with
      | .error e => .error e
      | .ok (path, query) => .ok (ofPath path query)
    | _ => readFull text

end Target

end FlowPeers
