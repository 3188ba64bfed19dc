import FlowPeers.Text.Decimal
import FlowPeers.Text.Utf8

/-!
# The tokens of a JSON text

A text is cut into tokens by a machine that reads one character at a time. A string keeps its
characters as they stand, escapes included; that its escapes are well formed is checked here, what
they stand for is found by `readString?`, which fails if they or ill-formed bytes spell no text.
-/

namespace FlowPeers.Json

open Text

/-- A token. -/
inductive Token
  | openList
  | closeList
  | openObject
  | closeObject
  | comma
  | colon
  /-- A word of letters. -/
  | word (letters : List Char)
  /-- A number, or what begins like one. -/
  | number (digits : List Char)
  /-- What stands between two quotes; nothing in the place of ill-formed bytes. -/
  | string (inside : List (Option Char))
  deriving DecidableEq, Repr

namespace Token

/-- What the machine is reading; the characters of a token read so far stand in reverse. -/
inductive Mode
  /-- Nothing: the last token has ended. -/
  | between
  /-- A word. -/
  | word (read : List Char)
  /-- A number. -/
  | number (read : List Char)
  /-- A string. -/
  | string (read : List (Option Char))
  /-- A string, after a backslash. -/
  | escape (read : List (Option Char))
  /-- A string, with that many digits of an escape to come. -/
  | hex (more : Nat) (read : List (Option Char))
  deriving DecidableEq, Repr

/-- Whether a character may separate tokens. -/
def isSpace (c : Char) : Bool :=
  c == ' ' || c == '\t' || c == '\n' || c == '\r'

/-- Whether a character may stand in a number. -/
def isNumberChar (c : Char) : Bool :=
  c.isDigit || c == '-' || c == '+' || c == '.' || c == 'e' || c == 'E'

/-- Reads a character between tokens: the token that it is, if it is one, and what it begins. -/
def begin? (c : Char) : Option (Option Token × Mode) :=
  if isSpace c then some (none, .between)
  else if c == '[' then some (some .openList, .between)
  else if c == ']' then some (some .closeList, .between)
  else if c == '\x7b' then some (some .openObject, .between)
  else if c == '\x7d' then some (some .closeObject, .between)
  else if c == ',' then some (some .comma, .between)
  else if c == ':' then some (some .colon, .between)
  else if c == '"' then some (none, .string [])
  else if c.isLower then some (none, .word [c])
  else if c.isDigit || c == '-' then some (none, .number [c])
  else none

/-- Reads a character after a token that it may have ended. -/
def beginAfter? (token : Token) (c : Option Char) : Option (List Token × Mode) :=
  match c.bind begin? with
  | none => none
  | some (next, mode) => some (token :: next.toList, mode)

/-- Reads one character: the tokens that it ends, and what is being read then. -/
def step? : Mode → Option Char → Option (List Token × Mode)
  | .between, c =>
    match c.bind begin? with
    | none => none
    | some (token, mode) => some (token.toList, mode)
  | .word read, c =>
    if c.any Char.isLower then some ([], .word (c.toList ++ read))
    else beginAfter? (.word read.reverse) c
  | .number read, c =>
    if c.any isNumberChar then some ([], .number (c.toList ++ read))
    else beginAfter? (.number read.reverse) c
  | .string read, c =>
    if c == some '"' then some ([.string read.reverse], .between)
    else if c == some '\\' then some ([], .escape (c :: read))
    else if c.any (·.toNat < 0x20) then none
    else some ([], .string (c :: read))
  | .escape read, c =>
    if c == some 'u' then some ([], .hex 4 (c :: read))
    else if c.any ['"', '\\', '/', 'b', 'f', 'n', 'r', 't'].contains then
      some ([], .string (c :: read))
    else none
  | .hex more read, c =>
    if c.any fun c => (digitValue? 16 c).isSome then
      some ([], if more ≤ 1 then .string (c :: read) else .hex (more - 1) (c :: read))
    else none

/-- The tokens that the end of the text ends. -/
def finish? : Mode → Option (List Token)
  | .between => some []
  | .word read => some [.word read.reverse]
  | .number read => some [.number read.reverse]
  | .string _ | .escape _ | .hex _ _ => none

/-- The tokens of a text. -/
def scan? : Mode → List (Option Char) → Option (List Token)
  | mode, [] => finish? mode
  | mode, c :: rest =>
    match step? mode c with
    | none => none
    | some (tokens, mode) =>
      match scan? mode rest with
      | none => none
      | some more => some (tokens ++ more)

end Token

/-- The number of four hexadecimal digits. -/
def unit? (a b c d : Option Char) : Option Nat :=
  ([a, b, c, d].mapM id).bind (readNumber? 16)

/-- Whether a number is the first half of a character beyond the first plane. -/
def isHighHalf (n : Nat) : Bool :=
  0xD800 ≤ n && n < 0xDC00

/-- Whether a number is the second half of a character beyond the first plane. -/
def isLowHalf (n : Nat) : Bool :=
  0xDC00 ≤ n && n < 0xE000

/-- The character that an escape of one letter stands for. -/
def escaped (c : Char) : Char :=
  if c == 'b' then '\x08'
  else if c == 'f' then '\x0c'
  else if c == 'n' then '\n'
  else if c == 'r' then '\r'
  else if c == 't' then '\t'
  else c

/-- The text that the inside of a string spells. -/
def readString? : List (Option Char) → Option (List Char)
  | [] => some []
  | some '\\' :: some 'u' :: a :: b :: c :: d :: rest =>
    match unit? a b c d with
    | none => none
    | some high =>
      if isHighHalf high then
        match rest with
        | some '\\' :: some 'u' :: e :: f :: g :: h :: rest =>
          match unit? e f g h with
          | none => none
          | some low =>
            if isLowHalf low then
              (readString? rest).map
                (Char.ofNat (0x10000 + (high - 0xD800) * 0x400 + (low - 0xDC00)) :: ·)
            else none
        | _ => none
      else if isLowHalf high then none
      else (readString? rest).map (Char.ofNat high :: ·)
  | some '\\' :: some c :: rest => (readString? rest).map (escaped c :: ·)
  | some c :: rest => (readString? rest).map (c :: ·)
  | none :: _ => none

end FlowPeers.Json
