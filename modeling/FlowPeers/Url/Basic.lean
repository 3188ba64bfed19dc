import FlowPeers.Host.Basic

/-!
# URLs

A URL is a scheme, an authority where it has one, a path, and a query and a fragment where it has
them. Its parts hold their written forms, so printing it is putting them together. A path is
opaque or a list of segments, each with a slash in front.
-/

namespace FlowPeers

open Text

namespace Url

/-- Who is asked, and where. -/
structure Authority where
  /-- The name of a user. -/
  user : List Char := []
  /-- The password of the user. -/
  password : List Char := []
  /-- The host, if it is not empty. -/
  host : Option Host
  /-- The port, if it is not the usual one of the scheme. -/
  port : Option UInt16 := none
  deriving DecidableEq, Repr

/-- The path of a URL. -/
inductive Path
  /-- A path without a hierarchy. -/
  | flat (text : List Char)
  /-- A path of segments. -/
  | rooted (segments : List (List Char))
  deriving DecidableEq, Repr

end Url

/-- A URL. -/
structure Url where
  /-- The scheme in lower case. -/
  scheme : List Char
  /-- The authority. -/
  authority : Option Url.Authority
  /-- The path. -/
  path : Url.Path
  /-- The query, without its question mark. -/
  query : Option (List Char)
  /-- The fragment, without its number sign. -/
  fragment : Option (List Char)
  deriving DecidableEq, Repr

namespace Url

/-- How a scheme lets its URLs be read. -/
inductive Kind
  /-- A scheme for the web. -/
  | web
  /-- The scheme of files. -/
  | file
  /-- Any other scheme. -/
  | other
  deriving DecidableEq, Repr

/-- The schemes for the web, with their usual ports. -/
def webPorts : List (String × UInt16) :=
  [("http", 80), ("https", 443), ("ws", 80), ("wss", 443), ("ftp", 21)]

/-- The usual port of a scheme. -/
def usualPort? (scheme : List Char) : Option UInt16 :=
  webPorts.lookup (String.ofList scheme)

/-- The kind of a scheme. -/
def kind (scheme : List Char) : Kind :=
  if (usualPort? scheme).isSome then .web
  else if scheme == ['f', 'i', 'l', 'e'] then .file
  else .other

/-- Whether a backslash counts as a slash in URLs of the kind. -/
def Kind.isSpecial : Kind → Bool
  | .web | .file => true
  | .other => false

/-- The written form of an authority, after the two slashes. -/
def Authority.print (a : Authority) : List Char :=
  (if a.user.isEmpty && a.password.isEmpty then []
    else a.user ++ (if a.password.isEmpty then [] else ':' :: a.password) ++ ['@'])
  ++ (match a.host with
    | some host => host.print
    | none => [])
  ++ match a.port with
    | some port => ':' :: decimal port.toNat
    | none => []

/-- The written form of a path. -/
def Path.print : Path → List Char
  | .flat text => text
  | .rooted segments => segments.flatMap ('/' :: ·)

/-- The mark of a path that would read as an authority if nothing stood in front of it. -/
def Path.guard : Path → List Char
  | .rooted ([] :: _ :: _) => ['/', '.']
  | _ => []

/-- The written form of a URL. -/
def print (url : Url) : List Char :=
  url.scheme ++ ':'
    :: (match url.authority with
      | some authority => '/' :: '/' :: authority.print
      | none => url.path.guard)
    ++ url.path.print
    ++ (match url.query with
      | some query => '?' :: query
      | none => [])
    ++ match url.fragment with
      | some fragment => '#' :: fragment
      | none => []

/-- The host of a URL that has one. -/
def host? (url : Url) : Option Host :=
  url.authority.bind (·.host)

/-- The port of a URL, the usual one of its scheme if it names none. -/
def port? (url : Url) : Option UInt16 :=
  match url.authority.bind (·.port) with
  | some port => some port
  | none => usualPort? url.scheme

end Url

end FlowPeers
