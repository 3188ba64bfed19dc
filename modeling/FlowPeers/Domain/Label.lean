import FlowPeers.Domain.Punycode
import FlowPeers.Unicode.Composition
import FlowPeers.Unicode.Direction
import FlowPeers.Unicode.Mapping
import FlowPeers.Unicode.Marks

/-!
# Labels of a domain name

A label is what stands between two dots. One that begins with `xn--` is the ASCII form of another,
which must be composed, mapped to itself and not ASCII alone. Every label must obey two rules: it
does not begin with a mark, and the two invisible joiners stand only where they join something.
-/

namespace FlowPeers.Domain

open Unicode

/-- Whether a text holds ASCII characters alone. -/
def isAscii (s : List Char) : Bool :=
  s.all (·.toNat < 0x80)

/-- The combining class of the signs that suppress a vowel. -/
def virama : Nat := 9

/-- Whether the last letter of a text joins to a letter after it. -/
def joinsOnward (before : List Char) : Bool :=
  match (before.reverse.dropWhile transparent.contains).head? with
  | some c => joinsLeft.contains c || joinsBoth.contains c
  | none => false

/-- Whether the first letter of a text joins to a letter before it. -/
def joinsBackward (after : List Char) : Bool :=
  match (after.dropWhile transparent.contains).head? with
  | some c => joinsRight.contains c || joinsBoth.contains c
  | none => false

/-- Whether a joiner may stand between the two texts: after a suppressed vowel, or, if it is the one
that keeps letters apart, between two letters that would join. -/
def isJoinerPlace (joiner : Char) (before after : List Char) : Bool :=
  (match before.getLast? with
    | some c => Composition.combiningClass c == virama
    | none => false)
  || joiner == '\u200C' && joinsOnward before && joinsBackward after

/-- Whether every joiner in a text has its place, `before` standing in front of it. -/
def joinersFit (before : List Char) : List Char → Bool
  | [] => true
  | c :: rest =>
    (!(c == '\u200C' || c == '\u200D') || isJoinerPlace c before rest)
      && joinersFit (before ++ [c]) rest

/-- Whether a label that is not in ASCII form may stand in a domain name. -/
def isLabel (label : List Char) : Bool :=
  isAscii label
    || (match label.head? with
        | some c => !marks.contains c
        | none => true)
      && joinersFit [] label

/-- The beginning of a label in ASCII form. -/
def asciiMark : List Char := ['x', 'n', '-', '-']

/-- The label that a piece of a mapped domain name stands for. -/
def readLabel? (piece : List Char) : Option (List Char) :=
  if asciiMark.isPrefixOf piece then
    match Punycode.decode? (piece.drop asciiMark.length) with
    | none => none
    | some label =>
      if !isAscii label && label.all isMapped && compose label == label && isLabel label then
        some label
      else none
  else if isLabel piece then some piece
  else none

/-- A label in ASCII. -/
def asciiLabel (label : List Char) : List Char :=
  if isAscii label then label else asciiMark ++ Punycode.encode label

/-- Whether a class makes a domain name one that is written from right to left somewhere. -/
def isRightward : Direction → Bool
  | .right | .arabicLetter | .arabicNumber => true
  | _ => false

/-- Whether a label has a character that is written from right to left, as no ASCII character
is. -/
def isBidirectional (label : List Char) : Bool :=
  !isAscii label && label.any (isRightward ∘ direction)

/-- Whether a label that runs from left to right may end with the class. -/
def endsLeft : Direction → Bool
  | .left | .europeanNumber => true
  | _ => false

/-- Whether a label that runs from right to left may end with the class. -/
def endsRight : Direction → Bool
  | .right | .arabicLetter | .europeanNumber | .arabicNumber => true
  | _ => false

/-- Whether characters of these classes make a label that keeps to one direction, as every label
must in a domain name where some character is written from right to left: it begins with a letter,
ends with a letter or a number, marks apart, and holds no letter of the other direction and, where
it runs from right to left, numbers of one kind. -/
def keepsDirection (classes : List Direction) : Bool :=
  let last := (classes.reverse.dropWhile (· == .mark)).head?
  match classes.head? with
  | none => true
  | some .left => !classes.any isRightward && last.any endsLeft
  | some .right | some .arabicLetter =>
    !classes.contains .left && last.any endsRight
      && !(classes.contains .europeanNumber && classes.contains .arabicNumber)
  | some _ => false

end FlowPeers.Domain
