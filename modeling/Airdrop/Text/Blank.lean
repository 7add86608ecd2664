/-!
# Text/Blank — white space, and trimming it

A character is **blank** when it has the Unicode property `White_Space`: the six ASCII ones (tab,
line feed, vertical tab, form feed, carriage return, space), next line, and eighteen above U+009F.
-/

namespace Airdrop.Text

/-- The Unicode property `White_Space`. -/
def isBlank (c : Char) : Bool :=
  let n := c.toNat
  (9 ≤ n && n ≤ 13) || n == 0x20 || n == 0x85 || n == 0xa0 || n == 0x1680 ||
  (0x2000 ≤ n && n ≤ 0x200a) || n == 0x2028 || n == 0x2029 || n == 0x202f || n == 0x205f ||
  n == 0x3000

/-- Leave out what satisfies `p` at both ends. -/
def trimBy (p : Char → Bool) (text : List Char) : List Char :=
  ((text.dropWhile p).reverse.dropWhile p).reverse

/-- **A text without the blanks at its two ends.** -/
def trim (text : List Char) : List Char := trimBy isBlank text

end Airdrop.Text
