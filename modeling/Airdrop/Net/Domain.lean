import Airdrop.Net.Domain.Direction
import Airdrop.Net.Domain.Joining
import Airdrop.Net.Domain.Mapping
import Airdrop.Net.Domain.Punycode

/-!
# Net/Domain — names in any script

People write domains in any script; machines know them in ASCII, where a label of another script
begins with `xn--` and goes on in Punycode.  `toAscii?` goes from one to the other.  **A domain is
refused as a whole** if one of its characters has no place in a domain, if one of its labels begins
with a mark, has a joiner that joins nothing, or is not the Punycode of a label, or if its labels
mix directions.

In ASCII without Punycode there is nothing to do but to turn capitals into small letters.
-/

namespace Airdrop.Net.Domain

open Text

/-- A character of ASCII that no domain has. -/
def isForbidden (c : Char) : Bool :=
  c.toNat ≤ 0x20 || c.toNat == 0x7f || "#/:<>?@[\\]^|%".toList.contains c

/-- What labels in Punycode begin with. -/
def codedMark : List Char := ['x', 'n', '-', '-']

/-- How long the Punycode of a label may be. -/
def maxCoded : Nat := 2000

/-- How long a label may be that has to be written in Punycode. -/
def maxUncoded : Nat := 1000

/-- Whether a text is ASCII. -/
def isAscii (text : List Char) : Bool := text.all (·.toNat < 0x80)

/-- A text as domains write it: mapped, composed, and without characters that no domain has. -/
def mapText? (text : List Char) : Option (List Char) := do
  let mapped := Composition.compose (← text.mapM mapChar?).flatten
  if mapped.any isForbidden then none else some mapped

/-- Whether a label is one, apart from its direction. -/
def isLabel (label : List Char) : Bool :=
  !(label.head?.any fun c => (mark? c).isSome) && joinersFit [] label &&
    (isAscii label || label.length ≤ maxUncoded)

/-- The label that a Punycode stands for.  It is not ASCII, and is written as domains write it. -/
def decodeLabel? (coded : List Char) : Option (List Char) :=
  if coded.getLast? = none || coded.getLast? = some '-' || maxCoded < coded.length then none
  else do
    let label ← Punycode.decode? coded
    if (← mapText? label) = label then some label else none

/-- **A label as it is meant**, if it is one. -/
def readLabel? (label : List Char) : Option (List Char) := do
  let meant ← if codedMark.isPrefixOf label then decodeLabel? (label.drop codedMark.length)
    else some label
  if isLabel meant then some meant else none

/-- A label in ASCII. -/
def labelText (label : List Char) : List Char :=
  if isAscii label then label else codedMark ++ Punycode.encode label

/-- **A domain of any script in ASCII.** -/
def codedText? (text : List Char) : Option (List Char) := do
  let labels ← ((← mapText? text).splitOn '.').mapM readLabel?
  if keepsDirections labels then some (['.'].intercalate (labels.map labelText)) else none

/-- Whether a text is ASCII and none of its labels Punycode. -/
def isPlain (text : List Char) : Bool :=
  isAscii text && !(text.splitOn '.').any codedMark.isPrefixOf

/-- **A domain in ASCII**, if the text is one. -/
def toAscii? (text : List Char) : Option (List Char) :=
  let lower := text.map Char.toLower
  if isPlain lower then if lower.any isForbidden then none else some lower
  else codedText? text

end Airdrop.Net.Domain
