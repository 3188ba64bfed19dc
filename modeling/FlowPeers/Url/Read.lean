import FlowPeers.Text.Blank
import FlowPeers.Url.Path

/-!
# Reading URLs

A text is trimmed, the characters that are ignored are left out, and what remains is cut at its
separators: scheme, authority, path, query, fragment. `parse` reads a text that stands alone, `join`
one that may be relative to another URL.
-/

namespace FlowPeers.Url

open Text

/-- What is read of a text: blanks and controls at its ends are not, nor ignored characters. -/
def clean (text : List Char) : List Char :=
  (trimBy (·.toNat ≤ 0x20) text).filter (!isIgnored ·)

/-- Whether a character may follow the first letter of a scheme. -/
def isSchemeChar (c : Char) : Bool :=
  c.isAlphanum || c == '+' || c == '-' || c == '.'

/-- The scheme in lower case and what follows its colon. -/
def splitScheme? (text : List Char) : Option (List Char × List Char) :=
  match text.head?, text.dropWhile isSchemeChar with
  | some first, ':' :: rest =>
    if first.isAlpha then some ((text.takeWhile isSchemeChar).map Unicode.lowerAscii, rest)
    else none
  | _, _ => none

/-- The query and the fragment of what follows a path. -/
def readSuffix (kind : Kind) : List Char → Option (List Char) × Option (List Char)
  | '?' :: rest =>
    (some (percentEncode (escapedInQuery kind) (rest.takeWhile (· != '#'))),
      match rest.dropWhile (· != '#') with
      | _ :: fragment => some (percentEncode escapedInFragment fragment)
      | [] => none)
  | '#' :: rest => (none, some (percentEncode escapedInFragment rest))
  | _ => (none, none)

/-- Whether a path ends before the character. -/
def endsPath (c : Char) : Bool :=
  c == '?' || c == '#'

/-- The URL of an authority and the segments before it, with the path, the query and the fragment
that the text gives. -/
def complete (scheme : List Char) (authority : Option Authority)
    (path : List Char → Path) (text : List Char) : Url :=
  let (query, fragment) := readSuffix (kind scheme) (text.dropWhile (!endsPath ·))
  { scheme := scheme
    authority := authority
    path := path (text.takeWhile (!endsPath ·))
    query := query
    fragment := fragment }

/-- The host in front of a colon, those in brackets apart, and the rest. -/
def splitHost (inside : Bool) : List Char → List Char × List Char
  | [] => ([], [])
  | c :: rest =>
    if c == ':' && !inside then ([], c :: rest)
    else
      let (host, tail) := splitHost (if c == '[' then true else if c == ']' then false else inside)
        rest
      (c :: host, tail)

/-- The port after a host, if it is not the usual one, and what the digits leave over: nothing, or
a text that begins with a backslash. -/
def readPort (scheme : List Char) : List Char → Except UrlError (Option UInt16 × List Char)
  | ':' :: text =>
    match text.dropWhile (·.isDigit) with
    | [] | '\\' :: _ =>
      let rest := text.dropWhile (·.isDigit)
      match readDecimal? (text.takeWhile (·.isDigit)) with
      | none => .ok (none, rest)
      | some n =>
        if n < 0x10000 then
          .ok (if usualPort? scheme == some (UInt16.ofNat n) then none else some (UInt16.ofNat n),
            rest)
        else .error .badPort
    | _ => .error .badPort
  | rest => .ok (none, rest)

/-- A host of the kind of scheme; an empty one is none. -/
def readHost (kind : Kind) (text : List Char) : Except UrlError (Option Host) :=
  match kind, text with
  | .other, [] => .ok none
  | .other, _ => (Host.readOpaque text).map some
  | _, [] => .error .emptyHost
  | _, _ => (Host.readWeb text).map some

/-- What stands before the last at sign and what follows it. -/
def splitUser? (text : List Char) : Option (List Char × List Char) :=
  if text.contains '@' then
    let after := (text.reverse.takeWhile (· != '@')).reverse
    some (text.take (text.length - after.length - 1), after)
  else none

/-- Reads an authority; `atEnd` says that the text ends with it. Returns what it leaves over. -/
def readAuthority (scheme : List Char) (atEnd : Bool) (text : List Char) :
    Except UrlError (Authority × List Char) :=
  let (info, address) := (splitUser? text).getD ([], text)
  if text.head? == some '@' && info.isEmpty && address.isEmpty && !atEnd then .error .emptyHost
  else
    let user := percentEncode escapedInUser (info.takeWhile (· != ':'))
    let password := percentEncode escapedInUser ((info.dropWhile (· != ':')).drop 1)
    let (hostText, rest) := splitHost false address
    match readHost (kind scheme) hostText with
    | .error e => .error e
    | .ok host =>
      if host.isNone && rest.head? == some ':' then .error .emptyHost
      else match readPort scheme rest with
        | .error e => .error e
        | .ok (port, rest) =>
          if host.isNone && !(user.isEmpty && password.isEmpty) then .error .emptyHost
          else .ok (⟨user, password, host, port⟩, rest)

/-- The path that follows an authority. -/
def readPathAfter (kind : Kind) (text : List Char) : Path :=
  .rooted <| match text with
    | [] => if kind.isSpecial then [[]] else []
    | c :: rest => readSegments kind [] (if isSlash kind c then rest else c :: rest)

/-- Whether an authority ends before the character. -/
def endsAuthority (kind : Kind) (c : Char) : Bool :=
  isSlash kind c || endsPath c

/-- Reads what follows the two slashes in front of an authority. -/
def readFromAuthority (scheme text : List Char) : Except UrlError Url :=
  let rest := text.dropWhile (!endsAuthority (kind scheme) ·)
  match readAuthority scheme rest.isEmpty (text.takeWhile (!endsAuthority (kind scheme) ·)) with
  | .error e => .error e
  | .ok (authority, left) =>
    .ok (complete scheme (some authority) (readPathAfter (kind scheme)) (left ++ rest))

/-- Reads what follows a scheme without a hierarchy of its own. -/
def readOther (scheme : List Char) : List Char → Except UrlError Url
  | '/' :: '/' :: rest => readFromAuthority scheme rest
  | '/' :: rest =>
    .ok (complete scheme none (fun path => .rooted (readSegments .other [] path)) rest)
  | text => .ok (complete scheme none (fun path => .flat (percentEncode Host.isControl path)) text)

/-- The scheme of files. -/
def fileScheme : List Char := ['f', 'i', 'l', 'e']

/-- Whether a text begins with the name of a drive as a whole segment. -/
def startsWithDrive : List Char → Bool
  | a :: b :: rest =>
    isDrive [a, b] && (match rest.head? with
      | none => true
      | some c => isSlash .file c || endsPath c)
  | _ => false

/-- The file's URL of a host and the segments in front of the text. -/
def fileUrl (host : Option Host) (before : List (List Char)) (text : List Char) : Url :=
  complete fileScheme (some { host := host })
    (fun path => .rooted (readSegments .file before path)) text

/-- A text without one slash in front. -/
def dropSlash : List Char → List Char
  | c :: rest => if isSlash .file c then rest else c :: rest
  | [] => []

/-- The host of a file: none if it is empty or the machine itself. -/
def readFileHost (text : List Char) : Except UrlError (Option Host) :=
  if text.isEmpty then .ok none
  else match Host.readWeb text with
    | .error e => .error e
    | .ok host => .ok (if host.print == "localhost".toList then none else some host)

/-- Whether a file's path begins with a drive, once its segments are read. -/
def leadsToDrive (text : List Char) : Bool :=
  let pieces := splitOn (isSlash .file) (text.takeWhile (!endsPath ·))
  (pieces.dropWhile fun piece => isHere piece || isAbove piece).head?.any isDrive

/-- Reads what follows the two slashes of a file's URL. A path that begins with a drive has no
host. -/
def readFileFromHost (text : List Char) : Except UrlError Url :=
  let hostText := text.takeWhile (!endsAuthority .file ·)
  if isDrive hostText then .ok (fileUrl none [] text)
  else match readFileHost hostText with
    | .error e => .error e
    | .ok host =>
      let rest := dropSlash (text.dropWhile (!endsAuthority .file ·))
      .ok (fileUrl (if leadsToDrive rest then none else host) [] rest)

/-- The segments of a URL's path. -/
def Path.segmentList : Path → List (List Char)
  | .flat _ => []
  | .rooted segments => segments

/-- Whether a segment names a drive with a colon. -/
def isColonDrive (segment : List Char) : Bool :=
  isDrive segment && segment.getLast? == some ':'

/-- What a relative path is added to. -/
def folder (kind : Kind) (segments : List (List Char)) : List (List Char) :=
  if kind == .file && segments.getLast?.any isColonDrive then segments else segments.dropLast

/-- A URL with another fragment. -/
def withFragment (base : Url) (text : List Char) : Url :=
  { base with fragment := some (percentEncode escapedInFragment text) }

/-- A URL with another query, and the fragment after it. -/
def withSuffix (base : Url) (text : List Char) : Url :=
  let (query, fragment) := readSuffix (kind base.scheme) text
  { base with query := query, fragment := fragment }

/-- Reads what follows the scheme of a file's URL, relative to another one if there is one. -/
def readFile (base : Option Url) (text : List Char) : Except UrlError Url :=
  match text with
  | c :: rest =>
    if isSlash .file c then
      match rest with
      | d :: more =>
        if isSlash .file d then readFileFromHost more else .ok (fromRoot rest)
      | [] => .ok (fromRoot rest)
    else match base with
      | none => .ok (fileUrl none [] text)
      | some base =>
        if c == '?' then .ok (withSuffix base text)
        else if c == '#' then .ok (withFragment base rest)
        else if startsWithDrive text then .ok (fileUrl none [] text)
        else .ok (fileUrl base.host? (folder .file base.path.segmentList) text)
  | [] =>
    match base with
    | none => .ok (fileUrl none [] text)
    | some base => .ok { base with fragment := none }
where
  /-- Reads a path from the root, on the drive or the host of the base. -/
  fromRoot (rest : List Char) : Url :=
    match base with
    | none => fileUrl none [] rest
    | some base =>
      if startsWithDrive rest then fileUrl none [] rest
      else match base.path.segmentList.head? with
        | some first =>
          if isColonDrive first then fileUrl none [first] rest else fileUrl base.host? [] rest
        | none => fileUrl base.host? [] rest

/-- Reads a text that is relative to a URL with a hierarchy, files apart. -/
def readRelative (base : Url) (text : List Char) : Except UrlError Url :=
  let kind := kind base.scheme
  let onto (before : List (List Char)) (rest : List Char) : Url :=
    complete base.scheme base.authority
      (fun path => .rooted (readSegments kind before path)) rest
  match text with
  | [] => .ok { base with fragment := none }
  | '?' :: _ => .ok (withSuffix base text)
  | '#' :: rest => .ok (withFragment base rest)
  | '/' :: '/' :: rest => readFromAuthority base.scheme rest
  | c :: rest =>
    if isSlash .file c then
      if rest.head?.any (isSlash .file) then
        readFromAuthority base.scheme (rest.dropWhile (isSlash .file))
      else .ok (onto [] rest)
    else .ok (onto (folder kind base.path.segmentList) text)

/-- Reads what follows a scheme. -/
def readAfterScheme (base : Option Url) (scheme text : List Char) : Except UrlError Url :=
  match kind scheme with
  | .file => readFile (base.filter (·.scheme == fileScheme)) text
  | .other => readOther scheme text
  | .web =>
    let slashes := text.takeWhile (isSlash .web)
    match base.filter (·.scheme == scheme) with
    | some base =>
      if slashes.length < 2 then readRelative base text
      else readFromAuthority scheme (text.dropWhile (isSlash .web))
    | none => readFromAuthority scheme (text.dropWhile (isSlash .web))

/-- Reads a text that has no scheme. -/
def readWithoutScheme (base : Option Url) (text : List Char) : Except UrlError Url :=
  match base with
  | none => .error .relativeWithoutBase
  | some base =>
    match text, base.path with
    | '#' :: rest, _ => .ok (withFragment base rest)
    | _, .flat _ => .error .relativeToOpaque
    | _, .rooted _ =>
      if kind base.scheme == .file then readFile (some base) text else readRelative base text

/-- Reads a text, relative to a URL if there is one. -/
def readOnto (base : Option Url) (text : List Char) : Except UrlError Url :=
  let text := clean text
  match splitScheme? text with
  | some (scheme, rest) => readAfterScheme base scheme rest
  | none => readWithoutScheme base text

/-- Reads a text that stands alone. -/
def parse (text : List Char) : Except UrlError Url :=
  readOnto none text

/-- Reads a text that may be relative to a URL. -/
def join (base : Url) (text : List Char) : Except UrlError Url :=
  readOnto (some base) text

end FlowPeers.Url
