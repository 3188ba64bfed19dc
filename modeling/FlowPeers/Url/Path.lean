import FlowPeers.Url.Basic

/-!
# Paths of segments

A path is read segment by segment onto the segments before it. A segment of two dots takes the last
one away and a segment of one dot adds none; at the end of a path both leave an empty segment. The
name of a drive is never taken away, and as the first segment of a file's path it ends in a colon.
-/

namespace FlowPeers.Url

open Text

/-- What is percent-encoded in a fragment. -/
def escapedInFragment (c : Char) : Bool :=
  Host.isControl c || [' ', '"', '<', '>', '\x60'].contains c

/-- What is percent-encoded in a query. -/
def escapedInQuery (kind : Kind) (c : Char) : Bool :=
  Host.isControl c || [' ', '"', '#', '<', '>'].contains c || kind.isSpecial && c == '\''

/-- What is percent-encoded in a path. -/
def escapedInPath (c : Char) : Bool :=
  escapedInFragment c || ['#', '?', '\x7b', '\x7d'].contains c

/-- What is percent-encoded in a segment that is added as it is. -/
def escapedInSegment (kind : Kind) (c : Char) : Bool :=
  escapedInPath c || c == '/' || c == '%' || kind.isSpecial && c == '\\'

/-- What is percent-encoded in the name and the password of a user. -/
def escapedInUser (c : Char) : Bool :=
  escapedInPath c || ['/', ':', ';', '=', '@', '[', '\\', ']', '^', '|'].contains c

/-- Whether the character separates segments. -/
def isSlash (kind : Kind) (c : Char) : Bool :=
  c == '/' || kind.isSpecial && c == '\\'

/-- A segment with its encoded dots written out and no other change. -/
def bareDots : List Char → List Char
  | '%' :: '2' :: 'e' :: rest | '%' :: '2' :: 'E' :: rest => '.' :: bareDots rest
  | c :: rest => c :: bareDots rest
  | [] => []

/-- Whether a segment stands for the place where it is. -/
def isHere (segment : List Char) : Bool :=
  bareDots segment == ['.']

/-- Whether a segment stands for the place above. -/
def isAbove (segment : List Char) : Bool :=
  bareDots segment == ['.', '.']

/-- Whether a segment names a drive. -/
def isDrive : List Char → Bool
  | [letter, c] => letter.isAlpha && (c == ':' || c == '|')
  | _ => false

/-- The segments without the last one, unless that names a drive. -/
def shorten (segments : List (List Char)) : List (List Char) :=
  if segments.getLast?.any isDrive then segments else segments.dropLast

/-- A segment that follows the given ones. -/
def placed (kind : Kind) (before : List (List Char)) (segment : List Char) : List Char :=
  match segment with
  | letter :: _ =>
    if kind == .file && before.isEmpty && isDrive segment then [letter, ':'] else segment
  | [] => []

/-- Adds the pieces of a text onto the segments before them, the last one as the end of the path. -/
def addPieces (kind : Kind) (segments : List (List Char)) :
    List (List Char) → List (List Char)
  | [] => segments
  | [last] =>
    if isAbove last then shorten segments ++ [[]]
    else if isHere last then segments ++ [[]]
    else segments ++ [placed kind segments last]
  | piece :: next :: rest =>
    let added :=
      if isAbove piece then shorten segments
      else if isHere piece then segments
      else segments ++ [placed kind segments piece]
    addPieces kind added (next :: rest)

/-- A file's path without the empty segments in front. -/
def trimmed (kind : Kind) (segments : List (List Char)) : List (List Char) :=
  if kind == .file then
    match segments.dropWhile (·.isEmpty) with
    | [] => [[]]
    | rest => rest
  else segments

/-- Reads the text of a path after its first slash onto the given segments. -/
def readSegments (kind : Kind) (segments : List (List Char)) (text : List Char) :
    List (List Char) :=
  trimmed kind (addPieces kind segments
    ((splitOn (isSlash kind) text).map (percentEncode escapedInPath)))

/-- Whether a character is left out wherever it stands in a URL. -/
def isIgnored (c : Char) : Bool :=
  c == '\t' || c == '\n' || c == '\r'

/-- Adds one segment, whose separators are encoded, in the place of an empty last one. -/
def addSegment (kind : Kind) (segments : List (List Char)) (segment : List Char) :
    List (List Char) :=
  if segment == ['.'] || segment == ['.', '.'] then segments
  else
    trimmed kind (addPieces kind (if segments == [[]] then [] else segments)
      [percentEncode (escapedInSegment kind) (segment.filter (!isIgnored ·))])

/-- The segments without an empty last one, if there are others. -/
def withoutEnd (segments : List (List Char)) : List (List Char) :=
  match segments with
  | _ :: _ :: _ => if segments.getLast? == some [] then segments.dropLast else segments
  | _ => segments

/-- A URL with segments added to its path; none if its path has no hierarchy. -/
def extend? (url : Url) (more : List (List Char)) : Option Url :=
  match url.path with
  | .flat _ => none
  | .rooted segments =>
    some { url with
      path := .rooted (more.foldl (addSegment (kind url.scheme)) (withoutEnd segments)) }

end FlowPeers.Url
