import FlowPeers.Text.Decimal
import FlowPeers.Text.Split

/-!
# Tables over code points

A table is an ascending array of rows, a row being a stretch of consecutive code points with a
value. Its written form is one word for each row: the first and the last code point in hexadecimal
with a dash between them, or one code point alone, and the value after a colon. Looking a code
point up is a binary search.
-/

namespace FlowPeers.Unicode

open Text

/-- A stretch of consecutive code points that share a value. -/
structure CodeRow (α : Type) where
  /-- The least code point of the stretch. -/
  first : Nat
  /-- The greatest code point of the stretch. -/
  last : Nat
  /-- What the table says of them. -/
  value : α

/-- Rows in ascending order. -/
structure CodeTable (α : Type) where
  /-- The rows. -/
  rows : Array (CodeRow α)

namespace CodeTable

variable {α : Type}

/-- The row of a code point among those from `lo` up to `hi`. -/
def search (rows : Array (CodeRow α)) (n lo hi : Nat) : Option (CodeRow α) :=
  if lo < hi then
    match rows[(lo + hi) / 2]? with
    | none => none
    | some row =>
      if n < row.first then search rows n lo ((lo + hi) / 2)
      else if row.last < n then search rows n ((lo + hi) / 2 + 1) hi
      else some row
  else none
termination_by hi - lo

/-- The row that holds the code point. -/
def find? (table : CodeTable α) (n : Nat) : Option (CodeRow α) :=
  search table.rows n 0 table.rows.size

/-- Whether some row holds the character. -/
def contains (table : CodeTable α) (c : Char) : Bool :=
  (table.find? c.toNat).isSome

/-- A code point in hexadecimal; a word that spells none counts as zero. -/
def readCode (s : List Char) : Nat :=
  (readNumber? 16 s).getD 0

/-- A row from its word, the value from what stands after the colon. -/
def readRow (value : List Char → α) (word : List Char) : CodeRow α :=
  let range := splitOn (· == '-') (word.takeWhile (· != ':'))
  { first := readCode (range.headD [])
    last := readCode (range.getLastD [])
    value := value ((word.dropWhile (· != ':')).drop 1) }

/-- A table from its written form. -/
def ofText (value : List Char → α) (text : String) : CodeTable α :=
  ⟨((words text.toList).map (readRow value)).toArray⟩

end CodeTable

/-- A set of code points, as a table whose rows say nothing more. -/
abbrev CodeSet : Type := CodeTable Unit

/-- A set of code points from its written form. -/
def CodeSet.ofText (text : String) : CodeSet :=
  CodeTable.ofText (fun _ => ()) text

/-- The characters whose code points a text lists with commas. -/
def readCharacters (s : List Char) : List Char :=
  (splitOn (· == ',') s).map fun code => Char.ofNat (CodeTable.readCode code)

end FlowPeers.Unicode
