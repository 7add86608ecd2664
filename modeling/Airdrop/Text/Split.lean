import Airdrop.Text.Blank

/-!
# Text/Split — cutting texts at marks

Most of what is read here is cut at a character: names from values, hosts from ports, words from
words.  **The first mark counts** (`atFirst`); a text without one is all name and no value.
-/

namespace Airdrop.Text.Split

/-- The texts before and after the first `mark`; without one there is nothing after it. -/
def atFirst (mark : Char) (text : List Char) : List Char × Option (List Char) :=
  match text.dropWhile (· ≠ mark) with
  | [] => (text, none)
  | _ :: rest => (text.takeWhile (· ≠ mark), some rest)

/-- The texts before and after the last `mark`, if there is one. -/
def atLast? (mark : Char) (text : List Char) : Option (List Char × List Char) :=
  match text.reverse.dropWhile (· ≠ mark) with
  | [] => none
  | _ :: before => some (before.reverse, (text.reverse.takeWhile (· ≠ mark)).reverse)

/-- The texts between blanks, without empty ones. -/
def words (text : List Char) : List (List Char) := (text.splitOnP isBlank).filter (!·.isEmpty)

end Airdrop.Text.Split
