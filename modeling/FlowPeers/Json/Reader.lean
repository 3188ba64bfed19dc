import FlowPeers.Json.Token
import FlowPeers.Json.Value

/-!
# Reading JSON

The reader is a pushdown machine over tokens: it stands where a value, a name, a colon or the end of
a value comes next, and keeps the lists and objects that are not closed yet on a stack. A text is
one value and nothing after it.
-/

namespace FlowPeers.Json

open Text

/-- A list or an object that is not closed, its parts in reverse. -/
inductive Frame
  | list (items : List Json)
  /-- An object, and the name whose value is being read. -/
  | object (members : List (Option (List Char) × Json)) (name : Option (List Char))
  deriving Repr

/-- What comes next. -/
inductive Awaits
  /-- A value. -/
  | value
  /-- The first item of a list, or its end. -/
  | item
  /-- The first name of an object, or its end. -/
  | firstName
  /-- A name, after the given members. -/
  | name (members : List (Option (List Char) × Json))
  /-- The colon after a name. -/
  | colon (members : List (Option (List Char) × Json)) (name : Option (List Char))
  /-- What follows a value. -/
  | rest (value : Json)
  deriving Repr

/-- Where the reader stands. -/
structure Reader where
  /-- What is not closed, innermost first. -/
  stack : List Frame
  /-- What comes next. -/
  awaits : Awaits
  deriving Repr

/-- What stands after the digits at the beginning of a text, if there is one digit at least. -/
def skipDigits? : List Char → Option (List Char)
  | c :: rest => if c.isDigit then some (rest.dropWhile (·.isDigit)) else none
  | [] => none

/-- Whether a text is the exponent of a number, or nothing. -/
def isExponent : List Char → Bool
  | [] => true
  | e :: rest =>
    (e == 'e' || e == 'E')
      && skipDigits? (match rest with
          | c :: digits => if c == '+' || c == '-' then digits else c :: digits
          | [] => []) == some []

/-- Whether a text is what may follow the whole part of a number. -/
def isFraction : List Char → Bool
  | '.' :: rest => (skipDigits? rest).any isExponent
  | rest => isExponent rest

/-- Whether a text is a number without a sign. -/
def isUnsigned : List Char → Bool
  | '0' :: rest => isFraction rest
  | rest => (skipDigits? rest).any isFraction

/-- Whether a text is a number. -/
def isNumber : List Char → Bool
  | '-' :: rest => isUnsigned rest
  | rest => isUnsigned rest

/-- The value that a token is by itself. -/
def leaf? : Token → Option Json
  | .word ['n', 'u', 'l', 'l'] => some .null
  | .word ['t', 'r', 'u', 'e'] => some (.bool true)
  | .word ['f', 'a', 'l', 's', 'e'] => some (.bool false)
  | .number digits => if isNumber digits then some (.number digits) else none
  | .string inside => some (.string (readString? inside))
  | _ => none

namespace Reader

/-- Reads the first token of a value. -/
def beginValue? (stack : List Frame) (token : Token) : Option Reader :=
  match token with
  | .openList => some ⟨stack, .item⟩
  | .openObject => some ⟨stack, .firstName⟩
  | token => (leaf? token).map fun value => ⟨stack, .rest value⟩

/-- Reads the name of a member. -/
def readName? (stack : List Frame) (members : List (Option (List Char) × Json)) :
    Token → Option Reader
  | .string inside => some ⟨stack, .colon members (readString? inside)⟩
  | _ => none

/-- Reads the token after a value. -/
def afterValue? (value : Json) : List Frame → Token → Option Reader
  | .list items :: stack, .comma => some ⟨.list (value :: items) :: stack, .value⟩
  | .list items :: stack, .closeList => some ⟨stack, .rest (.list (value :: items).reverse)⟩
  | .object members name :: stack, .comma => some ⟨stack, .name ((name, value) :: members)⟩
  | .object members name :: stack, .closeObject =>
    some ⟨stack, .rest (.object ((name, value) :: members).reverse)⟩
  | _, _ => none

/-- Reads one token. -/
def step? (r : Reader) (token : Token) : Option Reader :=
  match r.awaits, token with
  | .value, token => beginValue? r.stack token
  | .item, .closeList => some ⟨r.stack, .rest (.list [])⟩
  | .item, token => beginValue? (.list [] :: r.stack) token
  | .firstName, .closeObject => some ⟨r.stack, .rest (.object [])⟩
  | .firstName, token => readName? r.stack [] token
  | .name members, token => readName? r.stack members token
  | .colon members name, .colon => some ⟨.object members name :: r.stack, .value⟩
  | .colon _ _, _ => none
  | .rest value, token => afterValue? value r.stack token

/-- Reads all tokens: the value that they spell. -/
def run? (r : Reader) : List Token → Option Json
  | [] =>
    match r.stack, r.awaits with
    | [], .rest value => some value
    | _, _ => none
  | token :: tokens =>
    match r.step? token with
    | none => none
    | some next => next.run? tokens

end Reader

/-- The value that a text spells, nothing standing for ill-formed bytes. -/
def readUnits? (text : List (Option Char)) : Option Json :=
  match Token.scan? .between text with
  | none => none
  | some tokens => Reader.run? ⟨[], .value⟩ tokens

/-- The value that a text spells. -/
def read? (text : List Char) : Option Json :=
  readUnits? (text.map some)

/-- The value that the bytes of a text spell. -/
def readBytes? (bytes : List UInt8) : Option Json :=
  readUnits? (decode bytes)

end FlowPeers.Json
