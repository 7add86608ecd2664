/-!
# Verification/Config — the pace of a verification

The API limits how often it is asked, so the list is checked in batches with a pause in between, and
a question that failed is repeated after a pause.  **A batch has at least one entry, and each
question is asked at least once**, whatever the configuration holds.
-/

namespace Airdrop.Verification

/-- **How fast to ask.** -/
structure Config where
  /-- Entries of a batch. -/
  batchSize : Nat := 10000
  /-- Milliseconds between two batches. -/
  batchDelay : Nat := 10500
  /-- How often to ask for one address, the first time included. -/
  maxAttempts : UInt32 := 5
  /-- Milliseconds between two questions for one address. -/
  retryDelay : Nat := 2000
  deriving DecidableEq

namespace Config

/-- Set the batch size; zero is taken as one. -/
def withBatchSize (c : Config) (size : Nat) : Config := { c with batchSize := max size 1 }

/-- Set the number of attempts; zero is taken as one. -/
def withMaxAttempts (c : Config) (attempts : UInt32) : Config :=
  { c with maxAttempts := if attempts = 0 then 1 else attempts }

/-- Entries of a batch, at least one. -/
def width (c : Config) : Nat := max c.batchSize 1

/-- Questions for one address, at least one. -/
def attempts (c : Config) : Nat := max c.maxAttempts.toNat 1

theorem width_pos (c : Config) : 0 < c.width := by unfold width; omega

theorem attempts_pos (c : Config) : 0 < c.attempts := by unfold attempts; omega

end Config

/-- Decimal digits without the zeros at the end. -/
def withoutTrailingZeros (digits : List Char) : List Char :=
  (digits.reverse.dropWhile (· == '0')).reverse

/-- **Milliseconds in words**: in seconds with as many places as needed, below a second in
milliseconds, and nothing at all in nanoseconds. -/
def durationText (milliseconds : Nat) : String :=
  if milliseconds = 0 then "0ns"
  else if milliseconds < 1000 then toString milliseconds ++ "ms"
  else
    let places := (toString (1000 + milliseconds % 1000)).toList.drop 1
    match withoutTrailingZeros places with
    | [] => toString (milliseconds / 1000) ++ "s"
    | digits => toString (milliseconds / 1000) ++ "." ++ String.ofList digits ++ "s"

end Airdrop.Verification
