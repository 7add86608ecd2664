import Airdrop.Text.Digits
import Airdrop.Text.Split

/-!
# Text/CharTable — what is known of characters, run by run

Properties of characters come in runs.  A `CharTable` lists them ascending and apart from one
another, so **one binary search finds what is known of a character** (`run?`); of a character
outside every run nothing is.

A table is written as text (`ofText`): the words `first-last:value`, with the numbers of the
characters in base sixteen.  A run of one character has no last, and a run of which there is only to
tell that it is there has no value.
-/

namespace Airdrop.Text

/-- **Characters that follow one another**, and what is known of each. -/
structure Run (α : Type) where
  first : Nat
  last : Nat
  value : α

/-- Runs, ascending and apart. -/
abbrev CharTable (α : Type) := Array (Run α)

variable {α : Type}

/-- A run as a word; `read` tells what its value says. -/
def Run.ofWord? (read : List Char → Option α) (word : List Char) : Option (Run α) := do
  let (range, value) := Split.atFirst ':' word
  let (first, last) := Split.atFirst '-' range
  return ⟨← numberIn? 16 first, ← numberIn? 16 (last.getD first), ← read (value.getD [])⟩

namespace CharTable

/-- **The table that a text writes down.** -/
def ofText (read : List Char → Option α) (text : String) : CharTable α :=
  ((Split.words text.toList).filterMap (Run.ofWord? read)).toArray

/-- A table of which only matters what is in it. -/
def ofRanges (text : String) : CharTable Unit := ofText (fun _ => some ()) text

/-- The run of a number among those at positions `low` to `high - 1`, in at most `steps`
halvings. -/
def search (table : CharTable α) (n : Nat) : (steps low high : Nat) → Option (Run α)
  | 0, _, _ => none
  | steps + 1, low, high =>
    if low < high then
      let middle := (low + high) / 2
      match table[middle]? with
      | none => none
      | some run =>
        if n < run.first then search table n steps low middle
        else if run.last < n then search table n steps (middle + 1) high
        else some run
    else none

/-- **The run of a character.** -/
def run? (table : CharTable α) (c : Char) : Option (Run α) :=
  table.search c.toNat table.size 0 table.size

/-- What is known of a character. -/
def get? (table : CharTable α) (c : Char) : Option α := (table.run? c).map (·.value)

/-- Whether a character is in the table. -/
def contains (table : CharTable α) (c : Char) : Bool := (table.run? c).isSome

end CharTable

/-- The character that is told by its number in base sixteen. -/
def charOfHex? (digits : List Char) : Option Char := (numberIn? 16 digits).map Char.ofNat

/-- The characters that are told by their numbers, with dots between them; no text tells none. -/
def charsOfHex? (text : List Char) : Option (List Char) :=
  if text.isEmpty then some [] else (text.splitOn '.').mapM charOfHex?

end Airdrop.Text
