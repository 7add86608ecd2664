import Airdrop.Text.Digits
import Airdrop.Text.Split

/-!
# Net/Domain/Punycode — characters of all scripts in letters and digits

A label is written as its ASCII characters, a dash, and a row of numbers that tell which other
characters go where, in ascending order: each number is **how many places further on the next one
is**, counting through all characters and all places.  The digits of a number end themselves: the
first one below its threshold is the last.  How thresholds grow is adapted to the numbers before.
-/

namespace Airdrop.Net.Punycode

/-- The base of the numbers. -/
def base : Nat := 36

/-- The first character that is not ASCII. -/
def firstCode : Nat := 0x80

/-- Where thresholds begin to grow before there was any number. -/
def firstBias : Nat := 72

/-- The bound of what is counted. -/
def bound : Nat := 1 <<< 32

/-- The threshold of the digit with a weight of `base` to the `k / base`: from 1 to 26. -/
def threshold (bias k : Nat) : Nat :=
  if k ≤ bias then 1 else if bias + 26 ≤ k then 26 else k - bias

/-- How often a number has to be divided to be small, times the base, and what is left then. -/
def shrink (number steps : Nat) : Nat × Nat :=
  if 455 < number then shrink (number / 35) (steps + base) else (steps, number)
termination_by number
decreasing_by exact Nat.div_lt_self (by omega) (by omega)

/-- The bias after a number, when there are `count` characters. -/
def adapt (number count : Nat) (first : Bool) : Nat :=
  let damped := if first then number / 700 else number / 2
  let (steps, left) := shrink (damped + damped / count) 0
  steps + base * left / (left + 38)

/-! ## Reading -/

/-- **Read a number** and what follows it; `value` is what its digits so far come to. -/
def readNumber? (bias k weight value : Nat) : List Char → Option (Nat × List Char)
  | [] => none
  | c :: rest => do
    let digit ← Text.digitValue? c
    -- the letters come first, then the figures
    let digit := if digit < 10 then digit + 26 else digit - 10
    let value := value + digit * weight
    let t := threshold bias k
    if digit < t then some (value, rest)
    else
      let weight := weight * (base - t)
      if bound ≤ value || bound ≤ weight then none
      else readNumber? bias (k + base) weight value rest

/-- What has been read of a label. -/
structure Reading where
  /-- The characters. -/
  text : List Char
  /-- The character that was put in last. -/
  code : Nat := firstCode
  /-- The place behind it. -/
  place : Nat := 0
  bias : Nat := firstBias

/-- Go on by a number of places. -/
def Reading.advance? (r : Reading) (number : Nat) : Option Reading :=
  let count := r.text.length + 1
  let total := r.place + number
  let code := r.code + total / count
  let place := total % count
  if code.isValidChar then
    some {
      text := r.text.insertIdx place (.ofNat code)
      code := code
      place := place + 1
      bias := adapt number count (r.place == 0) }
  else none

/-- Read numbers until there are no more digits; `fuel` bounds how many there are. -/
def readNumbers? (r : Reading) : (fuel : Nat) → List Char → Option (List Char)
  | _, [] => some r.text
  | 0, _ :: _ => none
  | fuel + 1, digits => do
    let (number, rest) ← readNumber? r.bias base 1 0 digits
    readNumbers? (← r.advance? number) fuel rest

/-- **The label that a text stands for.** -/
def decode? (text : List Char) : Option (List Char) :=
  match Text.Split.atLast? '-' text with
  | some (c :: plain, digits) => readNumbers? { text := c :: plain } digits.length digits
  | _ => readNumbers? { text := [] } text.length text

/-! ## Writing -/

/-- The character of a digit. -/
def digit (value : Nat) : Char := .ofNat (if value < 26 then 97 + value else 22 + value)

/-- The digits of a number; `fuel` bounds how many there are. -/
def numberText (bias k number : Nat) : (fuel : Nat) → List Char
  | 0 => []
  | fuel + 1 =>
    let t := threshold bias k
    if number < t then [digit number]
    else
      let excess := number - t
      digit (t + excess % (base - t)) ::
        numberText bias (k + base) (excess / (base - t)) fuel

/-- What has been written of a label. -/
structure Writing where
  /-- The digits. -/
  digits : List Char := []
  /-- How many characters are written. -/
  count : Nat
  /-- How many places have been passed since the last one. -/
  passed : Nat := 0
  bias : Nat := firstBias
  /-- No number has been written. -/
  first : Bool := true

/-- Pass a character of the label while those of one code are written. -/
def Writing.pass (w : Writing) (code : Nat) (c : Char) : Writing :=
  if c.toNat < code then { w with passed := w.passed + 1 }
  else if c.toNat = code then
    { digits := w.digits ++ numberText w.bias base w.passed (w.passed + 1)
      count := w.count + 1
      passed := 0
      bias := adapt w.passed (w.count + 1) w.first
      first := false }
  else w

/-- Write the characters of codes, which ascend; `next` is the least code that they can have. -/
def writeCodes (text : List Char) (w : Writing) (next : Nat) : List Nat → List Char
  | [] => w.digits
  | code :: codes =>
    let w := { w with passed := w.passed + (code - next) * (w.count + 1) }
    let w := text.foldl (fun w c => w.pass code c) w
    writeCodes text { w with passed := w.passed + 1 } (code + 1) codes

/-- **A label in ASCII.** -/
def encode (text : List Char) : List Char :=
  let plain := text.filter (·.toNat < firstCode)
  let codes := ((text.map Char.toNat).filter (firstCode ≤ ·)).mergeSort.eraseReps
  plain ++ (if plain.isEmpty then [] else ['-']) ++
    writeCodes text { count := plain.length } firstCode codes

end Airdrop.Net.Punycode
