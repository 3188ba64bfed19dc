/-!
# Blanks

The characters that count as white space, in any script, and a text without those at its ends.
-/

namespace FlowPeers.Text

/-- Whether a character is white space. -/
def isBlank (c : Char) : Bool :=
  let n := c.toNat
  n == 0x20 || (0x09 ≤ n && n ≤ 0x0D) || n == 0x85 || n == 0xA0 || n == 0x1680
    || (0x2000 ≤ n && n ≤ 0x200A) || n == 0x2028 || n == 0x2029 || n == 0x202F || n == 0x205F
    || n == 0x3000

/-- A text without the characters of a class at its end. -/
def dropEnd (p : Char → Bool) (s : List Char) : List Char :=
  (s.reverse.dropWhile p).reverse

/-- A text without the characters of a class at its two ends. -/
def trimBy (p : Char → Bool) (s : List Char) : List Char :=
  dropEnd p (s.dropWhile p)

/-- A text without the blanks at its two ends. -/
def trim (s : List Char) : List Char :=
  trimBy isBlank s

end FlowPeers.Text
