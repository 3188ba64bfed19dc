import FlowPeers.Json.Value

/-!
# Records in JSON

A record has named fields in an order. It is written as an object, and read from an object, whose
members may stand in any order and among others, or from a list of the fields in their order.
`fields?` finds what is given for each field; what a field holds is found by the reader of its kind.
-/

namespace FlowPeers.Json

open Text

/-- The text of a string. -/
def text? : Json → Option String
  | .string (some text) => some (String.ofList text)
  | _ => none

/-- Yes or no. -/
def bool? : Json → Option Bool
  | .bool b => some b
  | _ => none

/-- A natural number below a bound, written with digits alone. -/
def natBelow? (bound : Nat) : Json → Option Nat
  | .number digits =>
    match readDecimal? digits with
    | some n => if n < bound then some n else none
    | none => none
  | _ => none

/-- A word of sixty-four bits. -/
def uint64? (value : Json) : Option UInt64 :=
  (value.natBelow? UInt64.size).map UInt64.ofNat

/-- A word of sixteen bits. -/
def uint16? (value : Json) : Option UInt16 :=
  (value.natBelow? UInt16.size).map UInt16.ofNat

/-- A list of values of one kind. -/
def list? {α : Type} (item? : Json → Option α) : Json → Option (List α)
  | .list items => items.mapM item?
  | _ => none

/-- What the members of an object give for a name. -/
def given (name : List Char) (members : List (Option (List Char) × Json)) : List Json :=
  (members.filter (·.1 == some name)).map (·.2)

/-- What a value gives for each of the named fields of a record, if it is one: every name spells a
text, no field is given twice, and a list has no more items than there are fields. -/
def fields? (names : List String) : Json → Option (List (Option Json))
  | .object members =>
    let values := names.map fun name => given name.toList members
    if members.all (·.1.isSome) && values.all (·.length ≤ 1) then
      some (values.map (·.head?))
    else none
  | .list items =>
    if items.length ≤ names.length then
      some (items.map some ++ List.replicate (names.length - items.length) none)
    else none
  | _ => none

/-- A field that must be given. -/
def required? {α : Type} (read? : Json → Option α) (value : Option Json) : Option α :=
  value.bind read?

/-- A field that has a value of its own if it is not given. -/
def optional? {α : Type} (default : α) (read? : Json → Option α) : Option Json → Option α
  | none => some default
  | some value => read? value

end FlowPeers.Json
